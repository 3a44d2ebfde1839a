import RestContract.Contract.Field
import RestContract.Endpoint.Input

/-!
# Contract classes

A contract class declares the fields of an endpoint and their marks; one of its instances
holds the values of one request. A class may make the path of its requests itself.
-/

namespace RestContract

/-- What identifies the class of records with the given fields, known by a key. -/
def RecordTag.of (key : Nat) (name : String) (parent : Option RecordTag)
    (fields : List ClassField) : RecordTag where
  key := key
  name := name
  ancestors := match parent with
    | some tag => tag.key :: tag.ancestors
    | none => []
  forms := fields.map fun f => (f.field.name, f.field.shape.form)

/-- A contract class. -/
structure ContractClass where
  /-- What identifies the class. -/
  tag : RecordTag
  /-- The fields in order. -/
  fields : List ClassField
  /-- How the class makes paths, when not by the template of its endpoint. -/
  resolver : Option Resolver

namespace ContractClass

/-- The fields of a subclass: a field of a known name takes the place of that one. -/
def extendFields (inherited own : List ClassField) : List ClassField :=
  own.foldl (fun fields f =>
    if fields.any fun g => g.field.name = f.field.name then
      fields.map fun g => if g.field.name = f.field.name then f else g
    else fields ++ [f]) inherited

/-- The shape of the instances of a class. -/
def shape (c : ContractClass) : Shape := .record c.tag (c.fields.map (·.field))

/-- The fields of a class as an endpoint declares them. -/
def declaredFields (c : ContractClass) : List FieldDeclaration :=
  c.fields.map fun f => ⟨.text f.field.name, .shape f.field.shape, f.markers, f.field.fallback⟩

/-- The instance with the given values. -/
def instantiate (c : ContractClass) (values : Values) : Outcome Value :=
  match c.shape.accept .caller (.map values) with
  | .ok a => .ok a.value
  | .error e => .error (.ofRefusal e)

end ContractClass

/-- The values of an instance by the names of their fields. -/
def Value.instanceValues : Value → Values
  | .record _ fields => fields.map fun f => (.text f.1, f.2)
  | _ => []

/-- Refuses to use a part of a class whose name a field of an instance has taken. -/
def Values.refuseHidden (names : List String) (values : Values) : Outcome Unit :=
  if names.any fun name => (lookupKey (.text name) values).isSome then .error (.silent .sort)
  else .ok ()

end RestContract
