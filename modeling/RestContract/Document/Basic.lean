import RestContract.Endpoint.Schema

/-!
# Contract documents

A document holds groups and endpoints outside every group. An endpoint is referred to by
its qualified name or, when that leads to one endpoint only, by its own name.
-/

namespace RestContract

/-- A contract document. -/
structure Document where
  /-- The groups in order. -/
  groups : List GroupSchema
  /-- The endpoints outside every group, in order. -/
  endpoints : List EndpointSchema
  deriving Inhabited

namespace Document

/-- All endpoints: those of the groups first. -/
def allEndpoints (d : Document) : List EndpointSchema :=
  d.groups.flatMap (·.members) ++ d.endpoints

/-- Whether a reference names an endpoint. -/
def refersTo (ref : Value) (e : EndpointSchema) : Bool :=
  ref.sameKey e.qualifiedName || ref.sameKey e.name

/-- The only endpoint that a reference names. -/
def find (d : Document) (ref : Value) : Outcome EndpointSchema := do
  unlessUnshown (d.allEndpoints.findSome? (·.unnamed?)) ()
  match d.allEndpoints.filter (refersTo ref) with
  | [] => .error (.reference (.unknown ref))
  | [e] => .ok e
  | _ => .error (.reference (.ambiguous ref))

end Document

end RestContract
