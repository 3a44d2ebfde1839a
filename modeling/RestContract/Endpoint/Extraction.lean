import RestContract.Endpoint.Declaration
import RestContract.Value.Order
import RestContract.Text.Case

/-!
# From declarations to endpoints

Each field is classified: its role comes from its marks, its type from its shape or from
the name of a type, where a question mark at the end means that the field may be left
out. Then the endpoint as a whole is checked: one body at most, no wire name twice in the
query, and the holes of its own path are exactly its path fields.
-/

namespace RestContract

open Text (lower upper)

/-- The type of a field, whether it may be left out, and the shape behind it. -/
structure FieldType where
  /-- The type of the field. -/
  type : ParamType
  /-- Whether the field may be left out. -/
  optional : Bool
  /-- The shape behind the type. -/
  valueType : ShapeRef

/-- The type of the values of a shape. -/
def Shape.paramType : Shape → ParamType
  | .text => .string
  | .integer => .integer
  | .float => .float
  | .boolean => .boolean
  | .moment => .date
  | .date => .dateOnly
  | .enumeration _ => .enum
  | _ => .json

/-- A shape without the absent value, when that is one of its two options. -/
def Shape.withoutNull? : Shape → Option Shape
  | .union [a, b] => if a.isNull then some b else if b.isNull then some a else none
  | _ => none

/-- The type of a text that names one; a question mark at its end means that values may
be left out. -/
def FieldType.ofName? (s : String) : Option FieldType :=
  let cs := s.toList
  let name := Text.trim Text.isBlank (Text.trimEnd (· = '?') cs)
  (ParamType.ofDocumentName? (lower (String.ofList name))).map fun t =>
    ⟨t, cs.getLast? = some '?', .plain .null⟩

/-- The type of a field for what stands as its type. -/
def FieldType.of : ShapeRef → Outcome FieldType
  | .shape s =>
    match s.withoutNull? with
    | some inner => .ok ⟨inner.paramType, true, .shape inner⟩
    | none => .ok ⟨s.paramType, false, .shape s⟩
  | .plain v =>
    match v.asText? with
    | none => .ok ⟨.json, false, .plain v⟩
    | some s =>
      match FieldType.ofName? s with
      | some t => .ok t
      | none => .error (.refuse (.unknownType v))

namespace FieldDeclaration

/-- The roles that the marks of a field give, each once. -/
def roles (f : FieldDeclaration) : List Role := (f.markers.filterMap (·.role?)).eraseDups

/-- The name on the wire that the marks of a field give. -/
def wireName? (f : FieldDeclaration) : Option Value :=
  f.markers.findSome? fun m => match m with
    | .query name => if name.isTruthy then some name else none
    | _ => none

/-- The type of a field in its role: whatever stands in the body is a payload, and nothing else may
be one. -/
def typeIn (f : FieldDeclaration) (role : Role) (t : ParamType) : Outcome ParamType :=
  if role = .body then .ok .json
  else if t = .json then .error (.refuse (.notSentAsText f.name role f.type))
  else .ok t

/-- The default of a field; an absent one means nothing where the field may be left out. -/
def fallbackIn (f : FieldDeclaration) (role : Role) (optional : Bool) : Outcome (Option Value) :=
  match f.fallback with
  | none => .ok none
  | some v =>
    if v.isNull && optional then .ok none
    else if role = .query then .ok (some v)
    else .error (.refuse (.misplacedDefault f.name))

/-- The parameter that a field declares. -/
def classify (f : FieldDeclaration) : Outcome Parameter := do
  if 1 < f.roles.length then .error (.refuse (.conflictingRoles f.name))
  else
    let role := f.roles.headD .query
    let field ← FieldType.of f.type
    let type ← f.typeIn role field.type
    let fallback ← f.fallbackIn role field.optional
    pure ⟨f.name, type, role, field.optional, f.wireName?.getD f.name, fallback, field.valueType⟩

end FieldDeclaration

/-- The method that a value names. -/
def Method.ofValue (v : Value) : Outcome Method :=
  match v with
  | .member m =>
    if m.lacks.contains .capitals then .error (.silent .sort)
    else match Method.ofName? (upper m.value) with
      | some method => .ok method
      | none => .error (.refuse (.unknownMethod v))
  | v =>
    match v.asText?.bind fun s => Method.ofName? (upper s) with
    | some method => .ok method
    | none => .error (.refuse (.unknownMethod v))

/-- The authentication requirement that a value is, or names by its plain text. -/
def Auth.ofValue (v : Value) : Outcome Auth :=
  match v.requirement? with
  | some a => .ok a
  | none => do
    unlessUnshown v.unplain? ()
    match Auth.ofName? (lower v.plain) with
    | some a => .ok a
    | none => .error (.refuse (.unknownAuth v))

namespace EndpointDeclaration

/-- The path of an endpoint; what counts as false is no path. -/
def ownPath (d : EndpointDeclaration) : Outcome PathText := do
  if !(← d.path.truth) then .ok ""
  else match PathText.ofValue? d.path with
    | some path => .ok path
    | none => .error (.refuse (.endpointPath d.name))

/-- Refuses several bodies. -/
def checkBodies (d : EndpointDeclaration) (parameters : List Parameter) : Outcome Unit :=
  let bodies := (parameters.filter fun p => p.role = .body).map (·.name)
  if bodies.length ≤ 1 then .ok ()
  else match bodies.mapM (·.asText?) with
    | some names => .error (.refuse (.severalBodies d.name names))
    | none => .error (.silent .sort)

/-- Refuses a wire name that is taken, after those already seen. -/
def checkWireNames (d : EndpointDeclaration) : List Value → List Parameter → Outcome Unit
  | _, [] => .ok ()
  | seen, p :: rest =>
    if p.role ≠ .query then checkWireNames d seen rest
    else if !p.wireName.isKey then .error (.silent .sort)
    else if seen.any fun name => name.sameKey p.wireName then
      .error (.refuse (.repeatedQuery p.wireName d.name))
    else checkWireNames d (seen ++ [p.wireName]) rest

/-- The least of some values, none when there are none. -/
def leastOf : List Value → Outcome (Option Value)
  | [] => .ok none
  | v :: rest =>
    match Value.leastFrom? v rest with
    | some least => .ok (some least)
    | none => .error (.silent .sort)

/-- Refuses path fields without holes, and holes without path fields. -/
def checkHoles (d : EndpointDeclaration) (path : PathText)
    (parameters : List Parameter) : Outcome Unit := do
  let holes := (Template.tokens path.text).map Value.text
  let fields := (parameters.filter fun p => p.role = .path).map (·.name)
  if !fields.all Value.isKey then .error (.silent .sort)
  match ← leastOf (fields.filter fun f => !holes.any fun h => h.sameKey f) with
  | some field => .error (.refuse (.fieldWithoutHole field d.name path.shown))
  | none =>
    match ← leastOf (holes.filter fun h => !fields.any fun f => f.sameKey h) with
    | some hole => .error (.refuse (.holeWithoutField path.shown d.name hole.plain))
    | none => pure ()

/-- The endpoint that a declaration describes, for a group or for none. -/
def extract (d : EndpointDeclaration) (group : Option GroupHeader) : Outcome EndpointSchema := do
  let method ← Method.ofValue d.method
  let path ← d.ownPath
  let parameters ← d.fields.mapM (·.classify)
  d.checkBodies parameters
  d.checkWireNames [] parameters
  if d.checkPath && d.resolver.isNone then d.checkHoles path parameters
  pure ⟨d.name, method, path, parameters, d.output, group, d.streaming, d.resolver⟩

end EndpointDeclaration

namespace GroupDeclaration

/-- The empty group that a declaration describes, known by a key. -/
def start (d : GroupDeclaration) (key : Nat) : Outcome GroupSchema := do
  match d.path with
  | .null => .error (.refuse (.groupWithoutPath d.name))
  | path =>
    match PathText.ofValue? path with
    | none => .error (.refuse (.groupPath d.name))
    | some path =>
      if !(Template.tokens path.text).isEmpty then .error (.refuse (.groupPathHoles d.name))
      else
        let auth ← Auth.ofValue d.auth
        pure ⟨⟨key, d.name, path, auth⟩, []⟩

/-- The group that a declaration describes, with its endpoints, known by a key. -/
def extract (d : GroupDeclaration) (key : Nat) : Outcome GroupSchema := do
  let group ← d.start key
  d.endpoints.foldlM (fun g e => do g.add (← e.extract (some g.header))) group

end GroupDeclaration

end RestContract
