import RestContract.Value.Basic

/-!
# Forms of written values

The form in which a value is written comes from the shape that was declared for it. Where
several forms are possible the first one that fits the value exactly is taken, or else the
first one that fits it loosely, where a truth value is a number and a record of an
extended class is one of the class itself. A value that fits no form is written freely.
-/

namespace RestContract

/-- How strictly a value has to fit a form. -/
inductive Strictness where
  /-- The value is of the very kind or class. -/
  | exact
  /-- The value is of an extended kind or class. -/
  | loose
  deriving DecidableEq, Repr

/-- Whether a value is of a kind. -/
def Scalar.fits (strictness : Strictness) (kind : Scalar) (v : Value) : Bool :=
  match kind, v with
  | .null, .null => true
  | .boolean, .bool _ => true
  | .integer, .int _ => true
  | .integer, .bool _ => strictness = .loose
  | .float, .float _ => true
  | .text, .text _ => true
  | .text, .member _ => strictness = .loose
  | .date, .date _ => true
  | .date, .moment _ => strictness = .loose
  | .moment, .moment _ => true
  | .member className, .member m => m.className = className
  | _, _ => false

/-- Whether a record is one of a class. -/
def RecordTag.isOf (strictness : Strictness) (key : Nat) (tag : RecordTag) : Bool :=
  tag.key = key || (strictness = .loose && tag.ancestors.contains key)

namespace Form

mutual

/-- Whether a value fits a form with all its parts. -/
def fits (strictness : Strictness) : Form → Value → Bool
  | .free, _ => true
  | .scalar kind, v => kind.fits strictness v
  | .listOf item, v =>
    match v with
    | .list items => items.all fun v => item.fits strictness v
    | _ => false
  | .mapOf form, v =>
    match v with
    | .map entries => entries.all fun e => e.1.asText?.isSome && form.fits strictness e.2
    | _ => false
  | .record key forms, v =>
    match v with
    | .record tag fields => tag.isOf strictness key && fieldsFit strictness fields forms
    | _ => false
  | .nullable form, v => v.isNull || form.fits strictness v
  | .union options, v => someFits strictness v options

/-- Whether the fields of a record fit their forms. -/
def fieldsFit (strictness : Strictness) (fields : List (String × Value)) :
    List (String × Form) → Bool
  | [] => true
  | (name, form) :: rest =>
    ((fields.lookup name).all fun v => form.fits strictness v) && fieldsFit strictness fields rest

/-- Whether a value fits one of some forms. -/
def someFits (strictness : Strictness) (v : Value) : List Form → Bool
  | [] => false
  | form :: rest => form.fits strictness v || someFits strictness v rest

end

/-- The one of several forms in which a value is written. -/
def choose (options : List Form) (v : Value) : Form :=
  match options.find? fun form => form.fits .exact v with
  | some form => form
  | none => (options.find? fun form => form.fits .loose v).getD .free

/-- The form in which a value is written where a form is expected. -/
def settle (v : Value) : Form → Form
  | .nullable form => if v.isNull then .scalar .null else settle v form
  | .union options => choose options v
  | form => form

end Form

end RestContract
