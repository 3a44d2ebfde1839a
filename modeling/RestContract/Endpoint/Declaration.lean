import RestContract.Endpoint.Schema

/-!
# Declarations

What is declared of an endpoint or a group before anything is checked. A method, a path
or an authentication requirement may be any value there.
-/

namespace RestContract

/-- A mark on a declared field. -/
inductive Marker where
  /-- The field is part of the path. -/
  | path
  /-- The field is part of the query, possibly under another name. -/
  | query (wireName : Value)
  /-- The field is the body. -/
  | body
  /-- A mark with no meaning here. -/
  | other

/-- The role that a mark gives. -/
def Marker.role? : Marker → Option Role
  | .path => some .path
  | .query _ => some .query
  | .body => some .body
  | .other => none

/-- A declared field. -/
structure FieldDeclaration where
  /-- The name of the field. -/
  name : Value
  /-- The type of its values. -/
  type : ShapeRef
  /-- Its marks. -/
  markers : List Marker
  /-- Its value when it is left out, if that is declared. -/
  fallback : Option Value

/-- A declared endpoint. -/
structure EndpointDeclaration where
  /-- The name of the endpoint. -/
  name : Value
  /-- Its method. -/
  method : Value
  /-- Its path. -/
  path : Value
  /-- Its fields. -/
  fields : List FieldDeclaration
  /-- The type of its results. -/
  output : ShapeRef
  /-- Whether results are sent as events. -/
  streaming : Bool
  /-- Whether the holes of the path have to be the path fields. -/
  checkPath : Bool
  /-- How the path is made, when not from its template. -/
  resolver : Option Resolver

/-- A declared group. -/
structure GroupDeclaration where
  /-- The name of the group. -/
  name : Value
  /-- Its base path. -/
  path : Value
  /-- Its authentication requirement. -/
  auth : Value
  /-- Its endpoints. -/
  endpoints : List EndpointDeclaration

end RestContract
