import RestContract.Error.Failure
import RestContract.Template.Path

/-!
# Endpoints and groups

An endpoint has a method, a path of its own and parameters, and may belong to a group.
The group gives it a base path and says whether callers have to authenticate; an
endpoint outside every group requires it. A group is known by its key, so two groups of
one name are not the same.
-/

namespace RestContract

/-- Values by the names of their parameters. -/
abbrev Values := List (Value × Value)

/-- Texts for the path fields of an endpoint. -/
abbrev PathTexts := List (Value × String)

/-- Makes the path of an endpoint from the texts of its path fields. -/
abbrev Resolver := PathTexts → Outcome PathText

/-- A parameter of an endpoint. -/
structure Parameter where
  /-- The name of the parameter. -/
  name : Value
  /-- The type of its values. -/
  type : ParamType
  /-- Its role in a request. -/
  role : Role
  /-- Whether it may be left out. -/
  optional : Bool
  /-- Its name on the wire. -/
  wireName : Value
  /-- Its value when it is left out, if it has such a default. -/
  fallback : Option Value
  /-- The class of texts of its values, or the shape of a body. -/
  valueType : ShapeRef
  deriving Inhabited

/-- What the endpoints of a group have in common. -/
structure GroupHeader where
  /-- Tells groups of the same name apart. -/
  key : Nat
  /-- The name of the group. -/
  name : Value
  /-- The path before the paths of its endpoints. -/
  basePath : PathText
  /-- Whether callers have to authenticate. -/
  auth : Auth
  deriving Inhabited

/-- What identifies an endpoint within its group. -/
structure EndpointDescriptor where
  /-- The name of the endpoint. -/
  name : Value
  /-- The method of the endpoint. -/
  method : Method
  /-- The path of the endpoint itself. -/
  ownPath : PathText

/-- The path of an endpoint itself, behind a slash unless it is empty. -/
def EndpointDescriptor.fullPath (d : EndpointDescriptor) : String :=
  if d.ownPath.isEmpty then ""
  else if d.ownPath.isRooted then d.ownPath.text
  else "/" ++ d.ownPath.shown

/-- A declared endpoint. -/
structure EndpointSchema where
  /-- The name of the endpoint. -/
  name : Value
  /-- The method of the endpoint. -/
  method : Method
  /-- The path of the endpoint itself. -/
  ownPath : PathText
  /-- The parameters in the order of their declaration. -/
  parameters : List Parameter
  /-- The type of its results; the absent value means that there are none. -/
  output : ShapeRef
  /-- The group of the endpoint, if it has one. -/
  group : Option GroupHeader
  /-- Whether results are sent as events, one after the other. -/
  streaming : Bool
  /-- How the path is made, when not from its template. -/
  resolver : Option Resolver
  deriving Inhabited

namespace EndpointSchema

/-- Whether callers have to authenticate. -/
def auth (e : EndpointSchema) : Auth := (e.group.map (·.auth)).getD .required

/-- The template of the whole path, also as it stands inside a longer text. -/
def path (e : EndpointSchema) : PathText :=
  PathText.join ((e.group.map (·.basePath)).getD (.of "")) e.ownPath

/-- The template of the whole path. -/
def pathTemplate (e : EndpointSchema) : String := e.path.text

/-- The parameters of a role. -/
def ofRole (e : EndpointSchema) (role : Role) : List Parameter :=
  e.parameters.filter fun p => p.role = role

/-- The parameter in the body, if there is one. -/
def bodyParameter? (e : EndpointSchema) : Option Parameter :=
  e.parameters.find? fun p => p.role = .body

/-- What identifies the endpoint within its group. -/
def descriptor (e : EndpointSchema) : EndpointDescriptor := ⟨e.name, e.method, e.ownPath⟩

/-- The name of the endpoint behind that of its group. -/
def qualifiedName (e : EndpointSchema) : Value :=
  match e.group with
  | some g => .text (g.name.plain ++ "." ++ e.name.plain)
  | none => e.name

/-- Why an endpoint has no qualified name, if it has none. -/
def unnamed? (e : EndpointSchema) : Option Value.Unshown :=
  e.group.bind fun g => g.name.uninserted?.or e.name.uninserted?

/-- The path with texts in its holes, or as the endpoint's own resolver makes it. -/
def resolvePath (e : EndpointSchema) (texts : PathTexts) : Outcome PathText :=
  match e.resolver with
  | some resolve => resolve texts
  | none =>
    if texts.isEmpty then .ok e.path
    else match texts.mapM fun t => t.1.asText?.map fun name => (name, t.2) with
      | some named => .ok (Template.resolve e.pathTemplate named)
      | none => .error (.silent .sort)

end EndpointSchema

/-- A group with its endpoints. -/
structure GroupSchema where
  /-- What the endpoints have in common. -/
  header : GroupHeader
  /-- The endpoints in the order in which they were added. -/
  members : List EndpointSchema
  deriving Inhabited

namespace GroupSchema

/-- The first endpoint of a name. -/
def member? (g : GroupSchema) (name : Value) : Option EndpointSchema :=
  g.members.find? fun m => m.name.sameKey name

/-- What identifies the endpoints. -/
def endpoints (g : GroupSchema) : List EndpointDescriptor := g.members.map (·.descriptor)

/-- Whether an endpoint was made for a group. -/
def owns (g : GroupSchema) (e : EndpointSchema) : Bool :=
  match e.group with
  | some h => h.key == g.header.key
  | none => false

/-- The group with one more endpoint, made for it and of a name not yet there. -/
def add (g : GroupSchema) (e : EndpointSchema) : Outcome GroupSchema :=
  if !g.owns e then .error (.refuse (.strayMember e.name g.header.name))
  else if (g.member? e.name).isSome then .error (.refuse (.takenMember g.header.name e.name))
  else .ok { g with members := g.members ++ [e] }

end GroupSchema

end RestContract
