import RestContract.Value.Basic
import RestContract.Number.Style
import RestContract.Number.Numeral
import RestContract.Time.Iso
import RestContract.Text.Quoted

/-!
# The text of a value

A value has two texts. The plain text is what a person or the wire is shown: a text is
itself, a date is written by its numbers. The quoted text is what messages show: texts
stand in quotes, and dates and members tell what they are. Inside a list, a map or a
record every value has its quoted text, and a container inside itself is only hinted at.
A number with too many digits has no text, nor has a member whose class puts something
else in the place of its text.
-/

namespace RestContract.Value

/-- The offset of a clock in a quoted text. -/
def quotedOffset (o : Int) : String :=
  if o = 0 then "datetime.timezone.utc" else "datetime.timezone(" ++ Iso.spanText o ++ ")"

/-- A moment in a quoted text: trailing zeros of second and microsecond are left out. -/
def quotedMoment (t : Moment) : String :=
  let numbers := [t.date.year, t.date.month, t.date.day, t.hour, t.minute] ++
    (if t.second = 0 ∧ t.micro = 0 then [] else [t.second]) ++
    (if t.micro = 0 then [] else [t.micro])
  "datetime.datetime(" ++ ", ".intercalate (numbers.map toString) ++
    (t.offset.map fun o => ", tzinfo=" ++ quotedOffset o).getD "" ++ ")"

/-- A member in a quoted text. -/
def quotedMember (m : EnumMember) : String :=
  "<" ++ m.className ++ "." ++ m.name ++ ": " ++ Text.quoted m.value ++ ">"

/-- What is shown where a list or a map stands inside itself. -/
def hint (isMap : Bool) : String := if isMap then "\x7b...\x7d" else "[...]"

/-- Whether a value is a map. -/
def isMap : Value → Bool
  | .map _ => true
  | _ => false

mutual

/-- The text of a value in messages, inside the containers of the given labels. -/
def quotedIn (outer : List Nat) : Value → String
  | .null => "None"
  | .bool b => if b then "True" else "False"
  | .int n => toString n
  | .float x => Number.Style.display.write x
  | .text s => Text.quoted s
  | .bytes b => Text.quotedBytes b
  | .date d =>
    "datetime.date(" ++ ", ".intercalate ([d.year, d.month, d.day].map toString) ++ ")"
  | .moment t => quotedMoment t
  | .member m => quotedMember m
  | .list items => "[" ++ ", ".intercalate (quotedItems outer items) ++ "]"
  | .pair a b => "(" ++ quotedIn outer a ++ ", " ++ quotedIn outer b ++ ")"
  | .map entries => "\x7b" ++ ", ".intercalate (quotedEntries outer entries) ++ "\x7d"
  | .set [] => "set()"
  | .set items => "\x7b" ++ ", ".intercalate (quotedItems outer items) ++ "\x7d"
  | .record tag fields => tag.name ++ "(" ++ ", ".intercalate (quotedFields outer fields) ++ ")"
  | .foreign _ => "<object>"
  | .shared label content =>
    if outer.contains label then hint content.isMap else quotedIn (label :: outer) content
  | .again _ isMap => hint isMap

/-- The quoted texts of the items of a list. -/
def quotedItems (outer : List Nat) : List Value → List String
  | [] => []
  | v :: vs => quotedIn outer v :: quotedItems outer vs

/-- The quoted texts of the entries of a map. -/
def quotedEntries (outer : List Nat) : List (Value × Value) → List String
  | [] => []
  | (k, v) :: es => (quotedIn outer k ++ ": " ++ quotedIn outer v) :: quotedEntries outer es

/-- The quoted texts of the fields of a record. -/
def quotedFields (outer : List Nat) : List (String × Value) → List String
  | [] => []
  | (n, v) :: fs => (n ++ "=" ++ quotedIn outer v) :: quotedFields outer fs

end

/-- The text of a value in messages. -/
def quoted (v : Value) : String := quotedIn [] v

/-- The plain text of a value. -/
def plain : Value → String
  | .text s => s
  | .date d => d.text
  | .moment t => t.text " "
  | .member m => m.className ++ "." ++ m.name
  | .record _ fields => " ".intercalate (quotedFields [] fields)
  | v => v.quoted

/-- Why a value has no text. -/
inductive Unshown where
  /-- A whole number has too many digits. -/
  | digits
  /-- A member lacks its text. -/
  | member
  deriving DecidableEq, Repr

/-- Why a member cannot do something, if it cannot. -/
def lacking (m : EnumMember) (ability : Ability) : Option Unshown :=
  if m.lacks.contains ability then some .member else none

mutual

/-- Why a value has no quoted text, if it has none. -/
def unquoted? : Value → Option Unshown
  | .int n => if Number.isWritable n then none else some .digits
  | .member m => lacking m .quoting
  | .list items => unquotedItems? items
  | .pair a b => (unquoted? a).or (unquoted? b)
  | .map entries => unquotedEntries? entries
  | .set items => unquotedItems? items
  | .record _ fields => unquotedFields? fields
  | .shared _ content => unquoted? content
  | _ => none

/-- Why an item of a list has no quoted text, if one has none. -/
def unquotedItems? : List Value → Option Unshown
  | [] => none
  | v :: vs => (unquoted? v).or (unquotedItems? vs)

/-- Why an entry of a map has no quoted text, if one has none. -/
def unquotedEntries? : List (Value × Value) → Option Unshown
  | [] => none
  | (k, v) :: es => ((unquoted? k).or (unquoted? v)).or (unquotedEntries? es)

/-- Why a field of a record has no quoted text, if one has none. -/
def unquotedFields? : List (String × Value) → Option Unshown
  | [] => none
  | (_, v) :: fs => (unquoted? v).or (unquotedFields? fs)

end

/-- Why a value has no plain text, if it has none. -/
def unplain? : Value → Option Unshown
  | .member m => lacking m .text
  | v => v.unquoted?

/-- Why a value cannot stand in a longer text, if it cannot. -/
def uninserted? : Value → Option Unshown
  | .member m => lacking m .insertion
  | v => v.unquoted?

@[simp] theorem plain_text (s : String) : plain (.text s) = s := rfl

@[simp] theorem uninserted?_text (s : String) :
    uninserted? (.text s) = none := by simp [uninserted?, unquoted?]

end RestContract.Value
