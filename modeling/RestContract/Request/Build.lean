import RestContract.Endpoint.Input
import RestContract.Request.Url

/-!
# Requests

A request has a method, an address with the query in it, headers and possibly a body.
The path of the address is resolved from the values unless it is given.
-/

namespace RestContract

/-- A request ready to be sent. -/
structure Request where
  /-- The method. -/
  method : Method
  /-- The whole address. -/
  url : String
  /-- The path before it was percent-coded. -/
  path : String
  /-- The query, if there is one. -/
  query : Option (List (String × String))
  /-- The body, if there is one. -/
  body : Option Bytes
  /-- The headers. -/
  headers : List (String × String)
  deriving Repr

/-- The text that a name of a query is; bytes are the text that they encode. -/
def queryName? : Value → Option String
  | .bytes b => Utf8.decode? b
  | v => v.asText?

/-- The names of a query as texts, or the number of those that are none. -/
def queryNames (texts : QueryTexts) : Except Nat (List (String × String)) :=
  let bad := (texts.filter fun t => (queryName? t.1).isNone).length
  if bad = 0 then .ok (texts.map fun t => ((queryName? t.1).getD "", t.2)) else .error bad

namespace EndpointSchema

/-- The headers of a request; events are asked for where results are streamed. -/
def requestHeaders (e : EndpointSchema) (hasBody : Bool) : List (String × String) :=
  (if e.streaming then [("Accept", "text/event-stream"), ("Cache-Control", "no-cache")] else []) ++
    (if hasBody then [("Content-Type", "application/json")] else [])

/-- The address of a path behind a base address; no other value that counts as true is
an address. -/
def address (base : Value) (path : PathText) : Outcome PathText :=
  match PathText.ofValue? base with
  | some base =>
    match Url.join? base.text path.text with
    | none => .error (.contract (.invalidUrl path.shown))
    | some url => .ok (if path.isEmpty then base else url)
  | none =>
    if !base.isKey then .error (.silent .sort)
    else if base.isTruthy then .error (.silent .part)
    else .error (.contract (.invalidUrl path.shown))

/-- The name of a query in a form-coded query. -/
def formName : Value → List Char
  | .bytes b => Percent.formBytes b
  | v => Percent.formField v.plain.toList

/-- An address with a query behind it, whose names need a text. -/
def withQuery (url : PathText) : Option QueryTexts → Outcome String
  | none => .ok url.text
  | some texts =>
    unlessUnshown (texts.findSome? fun t => t.1.unplain?)
      (url.shown ++ "?" ++
        Percent.joinPairs (texts.map fun t => (formName t.1, Percent.formField t.2.toList)))

/-- The query by names that are texts. -/
def namedQuery : Option QueryTexts → Outcome (Option (List (String × String)))
  | none => .ok none
  | some texts => ((queryNames texts).map some).mapError Failure.invalid

/-- The request for the values of an endpoint behind a base address;
a given path is taken as it is. -/
def buildRequest (e : EndpointSchema) (values : Values) (base : Value) (path : Option PathText)
    (serializer : Serializer := .json) : Outcome Request := do
  let path ← match path with
    | some path => pure path
    | none => e.resolvePath (← e.pathTexts values)
  let url ← address base path
  let query ← e.queryTexts values
  let whole ← withQuery url query
  let body ← e.encodeBody values serializer
  pure ⟨e.method, whole, path.text, ← namedQuery query, body, e.requestHeaders body.isSome⟩

end EndpointSchema

end RestContract
