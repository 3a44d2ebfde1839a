import RestContract.Endpoint.Declaration
import RestContract.Value.Acceptance

/-!
# Fields of classes

A class lists its fields with their shapes and marks. Of a name that is listed several
times the last shape and the last default count, in the place of the first one. Names that
begin with an underscore make no fields. Some names stand for something that every class
has, of its own sort or from the library of classes beneath: a field of such a name that is
given no default has that as its default, or is no field at all.
-/

namespace RestContract

/-- A field of a class. -/
structure ClassField where
  /-- The field as a part of records of the class. -/
  field : RecordField Shape
  /-- The marks on the field. -/
  markers : List Marker

/-- A field as a class lists it. -/
structure ListedField where
  /-- The field. -/
  own : ClassField
  /-- Whether the default is made anew for every record. -/
  madeAnew : Bool

/-- The sorts of classes with fields. -/
inductive ClassSort where
  /-- A class of records only. -/
  | model
  /-- A class of the inputs of an endpoint. -/
  | contract
  deriving DecidableEq, Repr

/-- What the classes of inputs have under names that fields may take. -/
def contractParts : List (String × Value) :=
  [("encode_body", .foreign .function), ("build_request", .foreign .function),
   ("execute", .foreign .function), ("stream", .foreign .function), ("decode", .foreign .method),
   ("path_template", .foreign .method), ("resolve_path", .foreign .method),
   ("path_parameters", .foreign .property), ("query_parameters", .foreign .property)]

/-- The library of classes with fields. -/
structure ClassLibrary where
  /-- What every class has under a name that fields may take. -/
  part? : String → Option Value
  /-- The names of the parts that no field may hide. -/
  guarded : List String

/-- The parts that every class has, and those of the class of classes. -/
def ClassLibrary.usual : ClassLibrary where
  part? name :=
    [("model_copy", .foreign .function), ("model_post_init", .foreign .function),
      ("model_construct", .foreign .method), ("model_json_schema", .foreign .method),
      ("model_parametrized_name", .foreign .method), ("model_rebuild", .foreign .method),
      ("model_extra", .foreign .property), ("model_fields_set", .foreign .property),
      ("model_fields", .map []), ("model_computed_fields", .map []),
      ("register", .foreign .method), ("mro", .foreign .builtin)].lookup name
  guarded := ["model_dump", "model_dump_json", "model_validate", "model_validate_json",
    "model_validate_strings"]

/-- What the classes of a sort have under a name, of their own or from the library. -/
def ClassSort.part? (sort : ClassSort) (library : ClassLibrary) (name : String) : Option Value :=
  match sort with
  | .model => library.part? name
  | .contract => (contractParts.lookup name).or (library.part? name)

namespace ListedField

/-- The name of a field. -/
def name (f : ListedField) : String := f.own.field.name

/-- Whether a name makes no field. -/
def isHidden (f : ListedField) : Bool := f.name.toList.head? = some '_'

/-- A field with the shape and the marks of a later one of its name,
and its default if it has one. -/
def followedBy (f later : ListedField) : ListedField :=
  if later.own.field.fallback.isSome then later
  else { later with
    own := { later.own with field := { later.own.field with fallback := f.own.field.fallback } }
    madeAnew := f.madeAnew }

/-- Adds a field to those listed before it. -/
def add (fields : List ListedField) (f : ListedField) : List ListedField :=
  if fields.any fun g => g.name = f.name then
    fields.map fun g => if g.name = f.name then g.followedBy f else g
  else fields ++ [f]

/-- A field with the bounds that its shape allows. -/
def bounded (f : ListedField) : Outcome ClassField := do
  let field := f.own.field
  if !field.shape.isCheckable then .error (.silent .part)
  let bound (given : Option Value) : Outcome (Option Value) :=
    match given with
    | none => .ok none
    | some .null => .ok none
    | some b =>
      match field.shape.bound? b with
      | some b => .ok (some b)
      | none => .error (.silent .bound)
  pure { f.own with
    field := { field with least := ← bound field.least, most := ← bound field.most } }

/-- The fields that a class of a sort makes of those it lists. -/
def fieldsOf (sort : ClassSort) (listed : List ListedField)
    (library : ClassLibrary := .usual) : Outcome (List ClassField) := do
  let fields := listed.foldl add []
  if fields.any fun f => f.name = "model_config" then .error (.silent .ownName)
  if fields.any fun f => f.isHidden && f.madeAnew then .error (.silent .fieldName)
  let fields := fields.filter (!·.isHidden)
  if fields.any fun f => library.guarded.contains f.name then .error (.silent .value)
  fields.mapM fun f =>
    match f.own.field.fallback with
    | some _ => f.bounded
    | none =>
      ListedField.bounded { f with
        own := { f.own with field := { f.own.field with fallback := sort.part? library f.name } } }

end ListedField

end RestContract
