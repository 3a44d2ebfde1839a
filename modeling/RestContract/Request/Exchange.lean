import RestContract.Contract.Registry
import RestContract.Settings
import RestContract.Stream.Frame

/-!
# Sending requests and reading replies

A sender adds its base address and its token to every request, and writes and reads bodies
with its serializer. A reply that is no success is an error, read from its body when that
holds one and made of its status otherwise. Each exchange tells what was sent besides its
result.
-/

namespace RestContract

/-- Sends requests to one base address. -/
structure Sender where
  /-- The base address. -/
  baseUrl : Value
  /-- How long to wait for a reply. -/
  timeout : Value
  /-- The authorization header of every request, if there is one. -/
  authorization : Option String
  /-- Reads and writes bodies. -/
  serializer : Serializer

/-- The sender with the given base address, token and timeout; settings stand in for what is not
given. -/
def Sender.of (baseUrl token timeout : Value) (settings : Settings)
    (serializer : Serializer := .json) : Sender :=
  let token := if token.isNull then .text settings.token else token
  { baseUrl := if baseUrl.isTruthy then baseUrl else .text settings.baseUrl
    timeout := if timeout.isNull then settings.timeout else timeout
    authorization := if token.isTruthy then some ("Bearer " ++ token.plain) else none
    serializer := serializer }

/-- A reply to a request. -/
structure Reply where
  /-- The status. -/
  status : Int
  /-- The words beside the status; what counts as false is none. -/
  reason : Value
  /-- The body. -/
  content : Bytes
  /-- The lines of the body as they arrive. -/
  lines : List String

/-- Whether a reply is a success. -/
def Reply.isSuccess (r : Reply) : Bool := 200 ≤ r.status && r.status < 300

/-- The error in a reply; without one in its body the status and the words beside it make one. -/
def Reply.error (r : Reply) (format : ErrorFormat := .json) : Outcome ErrorBody :=
  match format.read r.content with
  | .ok body => .ok body
  | .error _ =>
    let reason : Value := if r.reason.isTruthy then r.reason else .text ""
    match acceptText .caller reason with
    | .ok a => .ok ⟨"HTTP_" ++ toString r.status, a.value.plain, none⟩
    | .error e => .error (.ofRefusal e)

/-- Refuses a reply that is no success. -/
def Reply.check (r : Reply) (format : ErrorFormat := .json) : Outcome Unit := do
  if r.isSuccess then pure () else .error (.contract (.response r.status (← r.error format)))

/-- The result in a reply; there is none when the endpoint has no results or the body is empty. -/
def Reply.result (r : Reply) (output : ShapeRef) (serializer : Serializer := .json)
    (format : ErrorFormat := .json) : Outcome Value := do
  r.check format
  match output with
  | .plain .null => pure .null
  | output => if r.content.isEmpty then pure .null else serializer.decode output r.content

/-- A request as it was sent. -/
structure Sent where
  /-- The request. -/
  request : Request
  /-- How long to wait for a reply. -/
  timeout : Value
  /-- Whether the reply is read as it arrives. -/
  stream : Bool

/-- What was sent, and what came of it. -/
structure Exchange (α : Type) where
  /-- What was sent. -/
  sent : List Sent
  /-- What came of it. -/
  result : α

namespace Sender

/-- Sends a request, if there is one, and reads the result in the reply. -/
def call (s : Sender) (schema : Outcome EndpointSchema) (request : Outcome Request)
    (reply : Reply) :
    Exchange (Outcome Value) :=
  match schema, request with
  | .error f, _ => ⟨[], .error f⟩
  | _, .error f => ⟨[], .error f⟩
  | .ok schema, .ok request =>
    ⟨[⟨request, s.timeout, false⟩], reply.result schema.output s.serializer⟩

/-- Calls an endpoint with values. -/
def callEndpoint (s : Sender) (e : EndpointSchema) (values : Values) (reply : Reply) :
    Exchange (Outcome Value) :=
  s.call (.ok e) (e.buildRequest values s.baseUrl none s.serializer) reply

/-- Calls the endpoint of a contract instance. -/
def execute (s : Sender) (registry : Registry) (tag : RecordTag) (values : Values) (reply : Reply) :
    Exchange (Outcome Value) :=
  match values.refuseHidden ["execute", "build_request"] with
  | .error f => ⟨[], .error f⟩
  | .ok _ =>
    s.call (registry.schemaOf tag) (registry.buildRequest tag values s.baseUrl s.serializer) reply

/-- The values of events up to the first failure. -/
def eventValues (serializer : Serializer) (output : ShapeRef) :
    List String → List Value × Option Failure
  | [] => ([], none)
  | data :: rest =>
    match serializer.decode output (Utf8.encode data) with
    | .error f => ([], some f)
    | .ok v =>
      let (vs, failure) := eventValues serializer output rest
      (v :: vs, failure)

/-- Calls the streaming endpoint of a contract instance and reads its events up to the first
failure. -/
def stream (s : Sender) (registry : Registry) (tag : RecordTag) (values : Values) (reply : Reply) :
    Exchange (List Value × Option Failure) :=
  match values.refuseHidden ["stream"], registry.schemaOf tag,
    registry.buildRequest tag values s.baseUrl s.serializer with
  | .error f, _, _ => ⟨[], [], some f⟩
  | _, .error f, _ => ⟨[], [], some f⟩
  | _, _, .error f => ⟨[], [], some f⟩
  | .ok _, .ok schema, .ok request =>
    ⟨[⟨request, s.timeout, true⟩],
      match reply.check with
      | .error f => ([], some f)
      | .ok _ => eventValues s.serializer schema.output (Frame.read reply.lines)⟩

end Sender

end RestContract
