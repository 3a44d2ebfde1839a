import RestContract.Document.Basic
import RestContract.Endpoint.Extraction

/-!
# The layout of a document

A document is a mapping with groups and endpoints by their names. A group has a path,
possibly an authentication requirement, and endpoints; an endpoint has a method and
possibly a path, a type of results and parameters; a parameter is the name of a type or a
mapping with a role, which is the query unless it says otherwise. A parameter of type
`enum` lists its values and makes a class of texts of them.
-/

namespace RestContract.Document

/-- The value under a name. -/
def under? (name : String) (entries : Values) : Option Value := lookupKey (.text name) entries

/-- The entries under a name; what counts as false is an empty mapping. -/
def section? (name : String) (entries : Values) : Outcome Values :=
  match ((under? name entries).getD .null).opened with
  | .map inner => .ok inner
  | v => if v.isTruthy then .error (.silent .part) else .ok []

/-- The plain text of an endpoint and one of its fields. -/
def className (endpoint field : Value) : Outcome String :=
  unlessUnshown (endpoint.uninserted?.or field.uninserted?) (endpoint.plain ++ "_" ++ field.plain)

/-- The class of texts of a name and with members, or the failure to make it. -/
def classWith (name : String) (members : List (String × String)) : Outcome EnumClass :=
  match EnumClass.of name members with
  | .ok c => .ok c
  | .error .taken => .error (.silent .sort)
  | .error .reserved => .error (.silent .value)
  | .error .halved => .error (.silent .encoding)

/-- The class of texts whose members have their texts as names. -/
def classOf (endpoint field : Value) (values : Option Value) : Outcome EnumClass :=
  match values.map Value.opened with
  | some (.list (v :: vs)) => do
    let name ← className endpoint field
    unlessUnshown ((v :: vs).findSome? (·.unplain?)) ()
    classWith name ((v :: vs).map fun v => (v.plain, v.plain))
  | _ => .error (.refuse (.missingValues endpoint field))

/-- The member that stands as a default; an absent default stays as it is. -/
def memberDefault (c : EnumClass) (endpoint field : Value) : Option Value → Outcome (Option Value)
  | none => .ok none
  | some .null => .ok (some .null)
  | some v =>
    match v.asText?.bind c.find? with
    | some m => .ok (some (.member m))
    | none =>
      if c.lacks.contains .lookup then .error (.silent .sort)
      else .error (.refuse (.foreignDefault v endpoint field))

/-- The mark for a role of a parameter. -/
def markerOf (endpoint field role : Value) (entries : Values) : Outcome Marker :=
  if role.asText? = some "path" then .ok .path
  else if role.asText? = some "body" then .ok .body
  else if role.asText? = some "query" then .ok (.query ((under? "name" entries).getD .null))
  else .error (.refuse (.unknownRole endpoint field role))

/-- Whether the text of a type, but for question marks behind it, is `enum`. -/
def isEnumName (type : String) : Bool :=
  Text.trimEnd (· = '?') type.toList = "enum".toList

/-- The declared field of a parameter whose entries are given. -/
def fieldOfEntries (endpoint name : Value) (entries : Values) : Outcome FieldDeclaration := do
  let role := (under? "role" entries).getD (.text "query")
  let marker ← markerOf endpoint name role entries
  if ((under? "name" entries).getD .null).isTruthy && role.asText? ≠ some "query" then
    .error (.refuse (.misplacedName endpoint name))
  else
    let usual := if role.asText? = some "body" then "json" else "string"
    let type := (under? "type" entries).getD (.text usual)
    let fallback := under? "default" entries
    match type.asText? with
    | some s =>
      if isEnumName s then
        let c ← classOf endpoint name (under? "values" entries)
        let fallback ← memberDefault c endpoint name fallback
        let shape :=
          if s.toList.getLast? = some '?' then .union [.enumeration c, .null] else .enumeration c
        pure ⟨name, .shape shape, [marker], fallback⟩
      else pure ⟨name, .plain type, [marker], fallback⟩
    | none => pure ⟨name, .plain type, [marker], fallback⟩

/-- The declared field of a parameter. -/
def fieldOf (endpoint name parameter : Value) : Outcome FieldDeclaration :=
  match parameter.opened with
  | .map entries => fieldOfEntries endpoint name entries
  | v =>
    match v.asText? with
    | some _ => fieldOfEntries endpoint name [(.text "type", v)]
    | none => .error (.refuse (.parameterShape endpoint name))

/-- The declared endpoint of an entry. -/
def endpointOf (name endpoint : Value) : Outcome EndpointDeclaration :=
  match endpoint.opened with
  | .map entries =>
    match under? "method" entries with
    | none => .error (.refuse (.missingMethod name))
    | some method => do
      let parameters ← section? "params" entries
      let fields ← parameters.mapM fun p => fieldOf name p.1 p.2
      pure {
        name := name
        method := method
        path := (under? "path" entries).getD (.text "")
        fields := fields
        output := .plain ((under? "output" entries).getD .null)
        streaming := ((under? "stream" entries).getD (.bool false)).isTruthy
        checkPath := ((under? "check_path" entries).getD (.bool true)).isTruthy
        resolver := none }
  | _ => .error (.refuse (.endpointShape name))

/-- The declared group of an entry. -/
def groupOf (name group : Value) : Outcome GroupDeclaration :=
  match group.opened with
  | .map entries => do
    let inner ← section? "endpoints" entries
    let endpoints ← inner.mapM fun e => endpointOf e.1 e.2
    pure ⟨name, (under? "path" entries).getD .null, (under? "auth" entries).getD (.text "required"),
      endpoints⟩
  | _ => .error (.refuse (.groupShape name))

/-- The groups of entries, known by keys from the given one on. -/
def groupsFrom (key : Nat) : Values → Outcome (List GroupSchema)
  | [] => .ok []
  | e :: rest => do
    let group ← (← groupOf e.1 e.2).extract key
    pure (group :: (← groupsFrom (key + 1) rest))

/-- The document that a value describes. -/
def ofValue (v : Value) : Outcome Document :=
  match v.opened with
  | .map entries => do
    let groups ← groupsFrom 0 (← section? "groups" entries)
    let endpoints ← (← section? "endpoints" entries).mapM fun e => do
      (← endpointOf e.1 e.2).extract none
    pure ⟨groups, endpoints⟩
  | _ => .error (.refuse .documentShape)

end RestContract.Document
