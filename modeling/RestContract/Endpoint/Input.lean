import RestContract.Endpoint.Wire
import RestContract.Endpoint.Payload

/-!
# Values of an endpoint, and the data of a request

The client turns the values of an endpoint into texts for the path, texts for the query
and a body; the server turns them back. What is required and missing is an error. On the
server a text that is no value of its type counts as missing; a parameter that may be
left out then has its default, or no value.
-/

namespace RestContract

/-- Texts by the names of query parameters on the wire. -/
abbrev QueryTexts := List (Value × String)

namespace EndpointSchema

/-- Adds the text of a path field to those before it. -/
def addPathText (values : Values) (texts : PathTexts) (p : Parameter) : Outcome PathTexts :=
  match (lookupKey p.name values).getD .null with
  | .null =>
    if p.optional then .ok texts else .error (.missingParameter p.name Role.path.name)
  | v => do pure (storeKey p.name (← p.encode v) texts)

/-- The texts of the path fields. -/
def pathTexts (e : EndpointSchema) (values : Values) : Outcome PathTexts :=
  (e.ofRole .path).foldlM (addPathText values) []

/-- Adds the text of a query field to those before it. -/
def addQueryText (values : Values) (texts : QueryTexts) (p : Parameter) : Outcome QueryTexts :=
  match (lookupKey p.name values).getD (p.fallback.getD .null) with
  | .null =>
    if p.optional then .ok texts else .error (.missingParameter p.wireName Role.query.name)
  | v => do pure (storeKey p.wireName (← p.encode v) texts)

/-- The texts of the query fields by their names on the wire, none when there are no texts. -/
def queryTexts (e : EndpointSchema) (values : Values) : Outcome (Option QueryTexts) := do
  let texts ← (e.ofRole .query).foldlM (addQueryText values) []
  pure (if texts.isEmpty then none else some texts)

/-- The body, none when there is no body or it is left out. -/
def encodeBody (e : EndpointSchema) (values : Values) (serializer : Serializer := .json) :
    Outcome (Option Bytes) :=
  match e.bodyParameter? with
  | none => .ok none
  | some p =>
    match (lookupKey p.name values).getD .null with
    | .null => if p.optional then .ok none else .error (.http (.plain .missingBody))
    | v => (serializer.encode v).map some

end EndpointSchema

/-- The data of a request that hold the values of an endpoint. -/
structure RequestData where
  /-- The texts of the path fields. -/
  path : PathTexts
  /-- The texts of the query fields. -/
  query : QueryTexts
  /-- The body, if there is one. -/
  body : Option Bytes

namespace Parameter

/-- The value of a body. -/
def bodyValue (p : Parameter) (body : Option Bytes) (serializer : Serializer) : Outcome Value :=
  match body with
  | none => if p.optional then .ok .null else .error (.http (.plain .missingBody))
  | some data => serializer.decode p.valueType data

/-- The value of a path or query field from its text, if that is there and stands for a value. -/
def textValue (p : Parameter) (key : Value) (texts : List (Value × String)) : Outcome Value :=
  match (lookupKey key texts).map p.decode with
  | some (.ok v) => .ok v
  | some (.error .unanswered) => .error (.ofText .unanswered)
  | _ =>
    match p.fallback with
    | some v => .ok v
    | none => if p.optional then .ok .null else .error (.missingParameter key p.role.name)

/-- The value of a parameter in the data of a request. -/
def valueIn (p : Parameter) (data : RequestData) (serializer : Serializer) : Outcome Value :=
  match p.role with
  | .body => p.bodyValue data.body serializer
  | .path => p.textValue p.name data.path
  | .query => p.textValue p.wireName data.query

end Parameter

/-- The values of an endpoint in the data of a request. -/
def EndpointSchema.decodeInput (e : EndpointSchema) (data : RequestData)
    (serializer : Serializer := .json) :
    Outcome Values :=
  e.parameters.foldlM
    (fun values p => do pure (storeKey p.name (← p.valueIn data serializer) values)) []

end RestContract
