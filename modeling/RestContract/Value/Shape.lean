import RestContract.Value.Form
import RestContract.Text.Quoted

/-!
# Shapes of values

A shape says which values are expected: texts, numbers and dates, members of a class of
texts, records with named fields, lists and maps of one shape, or any of several shapes.
Where a declaration expects a shape it may also hold any other value, for instance the
name of a type that only a document knows.
-/

namespace RestContract

/-- A class of texts with named members; of two members for one text only the first counts. -/
structure EnumClass where
  /-- The name of the class. -/
  name : String
  /-- The names and texts of its members. -/
  members : List (String × String)
  /-- What its members cannot do, because a text stands in the place of it. -/
  lacks : List Ability
  deriving DecidableEq, Repr, Inhabited

namespace EnumClass

/-- The member that a text stands for. -/
def find? (c : EnumClass) (value : String) : Option EnumMember :=
  (c.members.find? fun m => m.2 = value).map fun m => ⟨c.name, m.1, m.2, c.lacks, none⟩

/-- A member found by its text stands for that text and belongs to the class. -/
theorem find?_eq_some {c : EnumClass} {value : String} {m : EnumMember}
    (h : c.find? value = some m) :
    m.className = c.name ∧ m.value = value ∧ (m.name, m.value) ∈ c.members := by
  obtain ⟨p, hp, rfl⟩ := Option.map_eq_some_iff.mp h
  have hv : p.2 = value := by simpa using List.find?_some hp
  exact ⟨rfl, hv, List.mem_of_find?_eq_some hp⟩

/-- A text for which a class has a member stands for one. -/
theorem exists_find? {c : EnumClass} {name value : String}
    (h : (name, value) ∈ c.members) : ∃ m, c.find? value = some m := by
  have hsome : (c.members.find? fun m => m.2 = value).isSome = true :=
    List.find?_isSome.mpr ⟨(name, value), h, by simp⟩
  obtain ⟨m, hm⟩ := Option.isSome_iff_exists.mp hsome
  exact ⟨_, by rw [find?, hm]; rfl⟩

/-- Why texts cannot become members. -/
inductive Fault where
  /-- A name is taken or clashes with what every class has. -/
  | taken
  /-- A name is reserved, or a null character stands in that of the class. -/
  | reserved
  /-- The name of the class holds half of a surrogate pair. -/
  | halved
  deriving DecidableEq, Repr

/-- Whether a name has exactly one underscore at both of its ends. -/
def hasSingleEnds (cs : List Char) : Bool :=
  cs.length > 2 && cs.head? = some '_' && cs.getLast? = some '_' && cs[1]? ≠ some '_' &&
    cs[cs.length - 2]? ≠ some '_'

/-- Whether a name has exactly two underscores at both of its ends. -/
def hasDoubleEnds (cs : List Char) : Bool :=
  cs.length > 4 && cs.take 2 = ['_', '_'] && cs.drop (cs.length - 2) = ['_', '_'] &&
    cs[2]? ≠ some '_' && cs[cs.length - 3]? ≠ some '_'

/-- Whether a name is private to the class of the given name. -/
def isPrivate (className cs : List Char) : Bool :=
  match Text.afterPrefix? ('_' :: className ++ ['_', '_']) cs with
  | none => false
  | some [] => false
  | some _ => cs.getLast? ≠ some '_' || cs[cs.length - 2]? ≠ some '_'

/-- The names with underscores at both ends that say something about the class. -/
def settingNames : List String :=
  ["_order_", "_generate_next_value_", "_numeric_repr_", "_missing_", "_ignore_", "_iter_member_",
   "_iter_member_by_value_", "_iter_member_by_def_"]

/-- What members cannot do when a text stands under a special name. -/
def specialNames : List (String × List Ability) :=
  [("__str__", [.text, .insertion]), ("__format__", [.insertion]), ("__repr__", [.quoting]),
   ("__bool__", [.truth]), ("__len__", [.truth]), ("__eq__", [.key]), ("__hash__", [.key]),
   ("_missing_", [.lookup])]

/-- What members cannot do when one of them has the name of it. -/
def memberNames : List (String × Ability) :=
  [("upper", .capitals), ("startswith", .beginning), ("lstrip", .trimming), ("rstrip", .trimming),
   ("strip", .trimming)]

/-- The special names under which a text keeps members from being made. -/
def makingNames : List String :=
  ["__new__", "__init__", "__setattr__", "__getattr__", "__getattribute__"]

/-- The names in a text that lists them. -/
def listedNames (s : String) : List String :=
  Text.words ((s.toList.map fun c => if c = ',' then ' ' else c))

/-- A class that is being made. -/
structure Draft where
  /-- The names of members, also of those for a text already there. -/
  names : List String
  /-- The members. -/
  members : List (String × String)
  /-- The names that make no members. -/
  ignored : List String
  /-- The names that were ignored when they were met. -/
  passed : List String
  /-- The texts under special names. -/
  special : List (String × String)

/-- A draft with nothing in it. -/
def Draft.empty : Draft := ⟨[], [], [], [], []⟩

/-- Puts a text under a special name. -/
def Draft.setSpecial (name value : String) (d : Draft) : Draft :=
  { d with special := storeName name value d.special }

/-- Puts a text under a name that says something about the class. -/
def Draft.setSetting (name value : String) (d : Draft) : Except Fault Draft :=
  if !settingNames.contains name then .error .reserved
  else if name ≠ "_ignore_" then .ok (d.setSpecial name value)
  else
    let ignored := listedNames value
    if ignored.any d.names.contains then .error .reserved else .ok { d with ignored := ignored }

/-- Adds a member behind the others. -/
def Draft.addMember (name value : String) (d : Draft) : Draft :=
  { d with
    names := d.names ++ [name]
    members :=
      if d.members.any fun other => other.2 = value then d.members
      else d.members ++ [(name, value)] }

/-- Puts a text under a name. -/
def Draft.put (className : String) (d : Draft) (m : String × String) : Except Fault Draft :=
  let cs := m.1.toList
  if isPrivate className.toList cs then .ok d
  else if hasSingleEnds cs then d.setSetting m.1 m.2
  else if hasDoubleEnds cs then
    .ok (d.setSpecial (if m.1 = "__order__" then "_order_" else m.1) m.2)
  else if d.names.contains m.1 then .error .taken
  else if d.ignored.contains m.1 then .ok { d with passed := d.passed ++ [m.1] }
  else if d.passed.contains m.1 then .error .taken
  else .ok (d.addMember m.1 m.2)

/-- Whether the members have the order that a text lists, if it lists anything. -/
def Draft.hasOrder (d : Draft) (order : String) : Bool :=
  let members := d.members.map (·.1)
  let listed :=
    (listedNames order).filter fun name => !d.names.contains name || members.contains name
  (listedNames order).isEmpty || listed = members

/-- Whether a text can be the name of a part of a class. -/
def isPartName (cs : List Char) : Bool :=
  !cs.isEmpty && !(cs.head?.any Char.isDigit) && cs.all fun c =>
    c.isAlphanum || c = '_' || c.toNat ≥ 128

/-- The names of parts that every class has of its own. -/
def ownNames : List String :=
  ["__module__", "_all_bits_", "_boundary_", "_flag_mask_", "_generate_next_value_", "_inverted_",
   "_member_map_", "_member_names_", "_member_type_", "_new_member_", "_singles_mask_",
   "_unhashable_values_", "_use_args_", "_value2member_map_", "_value_repr_"]

/-- Why a text cannot name one more part of the class, when it should. -/
def Draft.partFault? (d : Draft) (special : List (String × String)) : Option Fault :=
  match special.lookup "__slots__" with
  | none => none
  | some part =>
    if !isPartName part.toList then some .taken
    else if (ownNames ++ d.names ++ special.map (·.1)).contains part then some .reserved
    else none

/-- Why a text cannot name a class, if it cannot: it has to be encoded, and a null character would
end it. -/
def nameFault? (name : String) : Option Fault :=
  if !Utf8.isWhole name then some .halved
  else if name.toList.contains (Char.ofNat 0) then some .reserved
  else none

/-- Why a class of a name cannot be made of a draft, if it cannot. -/
def Draft.fault? (className : String) (d : Draft) : Option Fault :=
  let special := d.special.filter fun s => !d.ignored.contains s.1
  if d.names.contains "mro" || d.names.contains "" then some .reserved
  else match (d.partFault? special).or (nameFault? className) with
    | some fault => some fault
    | none =>
      if special.any fun s =>
        s.1 = "__classcell__" || (!d.names.isEmpty && makingNames.contains s.1) then
        some .taken
      else if (special.lookup "_order_").any fun order => !d.hasOrder order then some .taken
      else none

/-- What the members of a draft cannot do. -/
def Draft.lacks (d : Draft) : List Ability :=
  let special := d.special.filter fun s => !d.ignored.contains s.1
  special.flatMap (fun s => (specialNames.lookup s.1).getD []) ++ d.names.filterMap fun name =>
    memberNames.lookup name

/-- The class with the given members. -/
def of (name : String) (members : List (String × String)) : Except Fault EnumClass := do
  let d ← members.foldlM (Draft.put name) Draft.empty
  match d.fault? name with
  | some fault => .error fault
  | none => pure ⟨name, d.members, d.lacks⟩

end EnumClass

/-- A field of a record. -/
structure RecordField (σ : Type) where
  /-- The name of the field. -/
  name : String
  /-- The values that the field takes. -/
  shape : σ
  /-- The value of the field when it is left out, if it may be. -/
  fallback : Option Value
  /-- The least number that the field takes. -/
  least : Option Value
  /-- The greatest number that the field takes. -/
  most : Option Value

/-- Which values are expected. -/
inductive Shape where
  /-- A text. -/
  | text
  /-- A whole number. -/
  | integer
  /-- A floating-point number. -/
  | float
  /-- A truth value. -/
  | boolean
  /-- A date with a clock time. -/
  | moment
  /-- A date. -/
  | date
  /-- A map with any entries. -/
  | anyMap
  /-- A list with any items. -/
  | anyList
  /-- Anything. -/
  | any
  /-- The absent value. -/
  | null
  /-- A member of a class of texts. -/
  | enumeration (c : EnumClass)
  /-- A record of a class. -/
  | record (tag : RecordTag) (fields : List (RecordField Shape))
  /-- A list of items of one shape. -/
  | listOf (item : Shape)
  /-- A map from texts to values of one shape. -/
  | mapOf (value : Shape)
  /-- A value of one of several shapes. -/
  | union (options : List Shape)
  deriving Inhabited

namespace Shape

/-- The name space of declared classes in messages. -/
def classSpace : String := "contracts."

mutual

/-- The text of a shape inside another one. -/
def innerText : Shape → String
  | .text => "str"
  | .integer => "int"
  | .float => "float"
  | .boolean => "bool"
  | .moment => "datetime.datetime"
  | .date => "datetime.date"
  | .anyMap => "dict"
  | .anyList => "list"
  | .any => "typing.Any"
  | .null => "NoneType"
  | .enumeration c => classSpace ++ c.name
  | .record tag _ => classSpace ++ tag.name
  | .listOf item => "list[" ++ innerText item ++ "]"
  | .mapOf value => "dict[str, " ++ innerText value ++ "]"
  | .union options => " | ".intercalate (optionTexts options)

/-- The texts of the options of a shape. -/
def optionTexts : List Shape → List String
  | [] => []
  | s :: rest =>
    (match s with
      | .null => "None"
      | s => innerText s) :: optionTexts rest

end

/-- The text of a shape in messages. -/
def message : Shape → String
  | .any => Shape.any.innerText
  | .enumeration c => "<enum " ++ Text.quoted c.name ++ ">"
  | .listOf item => (Shape.listOf item).innerText
  | .mapOf value => (Shape.mapOf value).innerText
  | .union options => (Shape.union options).innerText
  | s => "<class " ++ Text.quoted s.innerText ++ ">"

mutual

/-- Whether two shapes are the same. -/
def same : Shape → Shape → Bool
  | .text, .text => true
  | .integer, .integer => true
  | .float, .float => true
  | .boolean, .boolean => true
  | .moment, .moment => true
  | .date, .date => true
  | .anyMap, .anyMap => true
  | .anyList, .anyList => true
  | .any, .any => true
  | .null, .null => true
  | .enumeration c, .enumeration d => c == d
  | .record c _, .record d _ => c.key == d.key
  | .listOf s, .listOf t => same s t
  | .mapOf s, .mapOf t => same s t
  | .union ss, .union ts => sameAll ss ts
  | _, _ => false

/-- Whether two lists of shapes are the same. -/
def sameAll : List Shape → List Shape → Bool
  | [], [] => true
  | s :: ss, t :: ts => same s t && sameAll ss ts
  | _, _ => false

end

/-- The options of a shape: its own when it has several, else the shape alone. -/
def options : Shape → List Shape
  | .union ss => ss
  | s => [s]

/-- The shape of a value that has one of the given shapes; a repeated option counts once. -/
def oneOf (shapes : List Shape) : Shape :=
  let all :=
    (shapes.flatMap options).foldl (fun acc s => if acc.any s.same then acc else acc ++ [s]) []
  match all with
  | [s] => s
  | all => .union all

/-- Whether a shape is the absent value's. -/
def isNull : Shape → Bool
  | .null => true
  | _ => false

/-- Whether a shape is that of anything. -/
def isAny : Shape → Bool
  | .any => true
  | _ => false

mutual

/-- Whether values can be checked for a shape: no class of texts in it has something else in the
place of looking up. -/
def isCheckable : Shape → Bool
  | .enumeration c => !c.lacks.contains .lookup
  | .listOf item => item.isCheckable
  | .mapOf value => value.isCheckable
  | .union options => areCheckable options
  | _ => true

/-- Whether values can be checked for every one of some shapes. -/
def areCheckable : List Shape → Bool
  | [] => true
  | s :: rest => s.isCheckable && areCheckable rest

end

mutual

/-- The form in which the values of a shape are written. -/
def form : Shape → Form
  | .text => .scalar .text
  | .integer => .scalar .integer
  | .float => .scalar .float
  | .boolean => .scalar .boolean
  | .moment => .scalar .moment
  | .date => .scalar .date
  | .anyMap => .mapOf .free
  | .anyList => .listOf .free
  | .any => .free
  | .null => .scalar .null
  | .enumeration c => .scalar (.member c.name)
  | .record tag _ => .record tag.key tag.forms
  | .listOf item => .listOf item.form
  | .mapOf value => .mapOf value.form
  | .union options =>
    let inner := match optionForms options with
      | [form] => form
      | forms => .union forms
    if options.any isNull then .nullable inner else inner

/-- The forms of the options that stand for more than the absent value. -/
def optionForms : List Shape → List Form
  | [] => []
  | .null :: rest => optionForms rest
  | s :: rest => s.form :: optionForms rest

end

end Shape

/-- What stands where a shape is expected. -/
inductive ShapeRef where
  /-- A shape. -/
  | shape (s : Shape)
  /-- Any other value: the absent one, or the name of a type. -/
  | plain (v : Value)
  deriving Inhabited

end RestContract
