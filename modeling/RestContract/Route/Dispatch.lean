import RestContract.Route.Table
import RestContract.Stream.Frame

/-!
# Answering requests

A request leads to a route, its caller is recognized, its data are turned into an input,
and the function of the route runs. Errors meant for the client are answered as such, and
every other failure as an internal error. Results are written by the serializer of the
table; nothing is answered without content, and streamed results become frames, one after the
other.
-/

namespace RestContract

/-- A request as it arrives. -/
structure RawRequest where
  /-- The method. -/
  method : String
  /-- The path, percent-coded. -/
  path : String
  /-- The texts of the query by their names. -/
  query : List (String × String)
  /-- The body, if there is one. -/
  body : Option Bytes
  /-- The headers; names differ in case only when they are different headers to the sender. -/
  headers : List (String × String)

/-- An answer to a request. -/
structure Response where
  /-- The status. -/
  status : Int
  /-- The body, if there is one. -/
  body : Option Bytes
  /-- The headers. -/
  headers : List (String × String)
  /-- The frames of streamed results up to the first failure, if results are streamed. -/
  stream : Option (List (Outcome Bytes))

namespace Response

/-- The headers of a JSON body. -/
def jsonHeaders : List (String × String) := [("Content-Type", "application/json")]

/-- The headers of streamed results. -/
def eventHeaders : List (String × String) :=
  [("Content-Type", "text/event-stream"), ("Cache-Control", "no-cache")]

/-- The answer with an error, unless something is wrong with what the error shows. -/
def ofError (format : ErrorFormat) (e : HttpError) : Outcome Response := do
  let status ← HttpError.part e.status
  let data ← format.write (← e.toBody .null)
  pure ⟨← HttpError.statusOf status, some data, jsonHeaders, none⟩

/-- The error that stands for a failure in an answer. -/
def shownError (f : Failure) : HttpError :=
  f.asHttp?.getD (.saying .internal "An unexpected error occurred")

/-- The frames of events up to the first failure. -/
def frames (serializer : Serializer) : List (Outcome Value) → List (Outcome Bytes)
  | [] => []
  | .error f :: _ => [.error f]
  | .ok v :: rest =>
    match serializer.encode v with
    | .error f => [.error f]
    | .ok data => .ok (Frame.encode data) :: frames serializer rest

/-- The streamed frames of a result; a single value holds no events. -/
def streamOf (serializer : Serializer) : HandlerResult → List (Outcome Bytes)
  | .events items => frames serializer items
  | .value _ => [.error (.silent .sort)]

/-- The answer with the result of an endpoint. -/
def ofResult (serializer : Serializer) (streaming : Bool) (result : HandlerResult) :
    Outcome Response :=
  if streaming then .ok ⟨200, none, eventHeaders, some (streamOf serializer result)⟩
  else match result.asValue with
    | .null => .ok ⟨204, none, [], none⟩
    | v => do
      let body ← serializer.encode v
      pure ⟨200, some body, jsonHeaders, none⟩

end Response

namespace RawRequest

/-- The value of a header by its name in small letters; of several the last one counts. -/
def header? (r : RawRequest) (name : String) : Option String :=
  (r.headers.reverse.find? fun h => Text.lower h.1 = name).map (·.2)

/-- The method of a request. -/
def knownMethod (r : RawRequest) : Outcome Method :=
  match Method.ofName? (Text.upper r.method) with
  | some m => .ok m
  | none => .error (.http (.saying .badRequest ("Unsupported method: " ++ r.method)))

/-- The data of a request with the texts of a route's holes; an empty body is none. -/
def data (r : RawRequest) (params : List (String × String)) : RequestData :=
  ⟨params.map fun p => (.text p.1, p.2), r.query.map fun p => (.text p.1, p.2),
    r.body.filter fun b => !b.isEmpty⟩

end RawRequest

namespace Router

variable {m : Type → Type}

/-- The input of a route in the data of a request. -/
def inputOf (registry : Registry) (serializer : Serializer) (route : Route m)
    (data : RequestData) : Outcome Value :=
  match route.source with
  | .endpoint => (route.schema.decodeInput data serializer).map Value.map
  | .contract tag => registry.decode tag data serializer

/-- Runs the function of the route to which a request leads,
for the caller whom its header names. -/
def serve [Monad m] (registry : Registry) (r : Router m) (request : RawRequest) :
    ExceptT Failure m (Route m × HandlerResult) := do
  let method ← ExceptT.mk (pure request.knownMethod)
  let (route, params) ← ExceptT.mk (pure (r.lookup method request.path))
  let caller ← ExceptT.mk
    (authenticate route.schema.auth (request.header? "authorization") r.verifier)
  let input ← ExceptT.mk (pure (inputOf registry r.serializer route (request.data params)))
  let result ← ExceptT.mk (route.handler input caller)
  pure (route, result)

/-- The answer to what came of serving a request. -/
def answer (r : Router m) (format : ErrorFormat) :
    Outcome (Route m × HandlerResult) → Outcome Response
  | .error f => Response.ofError format (Response.shownError f)
  | .ok (route, result) => Response.ofResult r.serializer route.schema.streaming result

/-- Answers a request; errors are JSON objects unless another format is given. -/
def dispatch [Monad m] (registry : Registry) (r : Router m) (request : RawRequest)
    (format : ErrorFormat := .json) : m (Outcome Response) := do
  pure (r.answer format (← (serve registry r request).run))

end Router

end RestContract
