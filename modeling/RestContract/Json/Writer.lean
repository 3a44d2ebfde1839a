import RestContract.Value.Form
import RestContract.Value.Display
import RestContract.Value.Order
import RestContract.Text.Utf8

/-!
# Writing payloads

A payload is compact JSON. Only the quote, the backslash and control characters are
escaped. Dates and moments are texts, bytes are the text that they encode, a member is the
text that stands for it, and a record is an object with its fields in order. A value that
has the form in which it is written costs nothing; any other value is written freely, and
only so many of these can stand inside one another. What no payload can hold is a fault,
and it matters whether it stands alone or inside something else.
-/

namespace RestContract.Json

/-- Why a value has no payload. -/
inductive WriteFault where
  /-- The value itself is of no known kind. -/
  | unknownKind
  /-- The members of a class cannot be told apart from other texts. -/
  | uncheckable
  /-- Something inside the value cannot be written. -/
  | unwritable
  deriving DecidableEq, Repr

/-- One character of a quoted text. -/
def quoteChar (c : Char) : List Char :=
  if c = '"' || c = '\\' then ['\\', c]
  else if c = '\n' then ['\\', 'n']
  else if c = '\r' then ['\\', 'r']
  else if c = '\t' then ['\\', 't']
  else if c.toNat = 8 then ['\\', 'b']
  else if c.toNat = 12 then ['\\', 'f']
  else if c.toNat < 0x20 then '\\' :: 'u' :: Text.hexPadded 4 c.toNat
  else [c]

/-- A quoted text. -/
def quote (s : String) : String := String.ofList ('"' :: s.toList.flatMap quoteChar ++ ['"'])

/-- The name of a map entry. -/
def keyText? : Value → Option String
  | .null => some "None"
  | .bool b => some (if b then "true" else "false")
  | .int n => some (toString n)
  | .float x => some (Number.Style.display.write x)
  | .text s => some s
  | .bytes b => Utf8.decode? b
  | .date d => some d.text
  | .moment t => some t.payloadText
  | .member m => some m.value
  | _ => none

/-- The JSON text of a value that is neither a container nor a record. -/
def writeScalar? : Value → Option String
  | .null => some "null"
  | .bool b => some (if b then "true" else "false")
  | .int n => some (toString n)
  | .float x => some (Number.Style.payload.write x)
  | .text s => some (quote s)
  | .bytes b => (Utf8.decode? b).map quote
  | .date d => some (quote d.text)
  | .moment t => some (quote t.payloadText)
  | .member m => some (quote m.value)
  | _ => none

/-- A value as one of a kind: a truth value as a number, and a number with a point. -/
def asKind (kind : Scalar) (v : Value) : Value :=
  match kind, v.asWhole? with
  | .integer, some n => .int n
  | .float, some n => if (Number.ofWhole n).isInf then v else .float (Number.ofWhole n)
  | _, _ => v

/-- Whether a value has the form in which it is written; only the kind of a container matters. -/
def isTyped (form : Form) (v : Value) : Bool :=
  match form, v with
  | .scalar .float, v =>
    (asKind .float v).asWhole?.isNone && Scalar.float.fits .loose (asKind .float v)
  | .scalar kind, v => kind.fits .loose v
  | .listOf _, .list _ => true
  | .mapOf _, .map _ => true
  | .record _ _, .record _ _ => true
  | .record _ _, .member _ => true
  | .record _ _, .foreign _ => true
  | _, _ => false

/-- The form of the parts of a container. -/
def partForm : Form → Form
  | .listOf item => item
  | .mapOf value => value
  | _ => .free

/-- The fields that are written of a record, with their forms. -/
def fieldForms (form : Form) (tag : RecordTag) : List (String × Form) :=
  match form with
  | .record _ forms => forms
  | _ => tag.forms

/-- Texts between brackets. -/
def bracketed (parts : List String) : String := "[" ++ ",".intercalate parts ++ "]"

/-- Texts between braces. -/
def braced (parts : List String) : String := "\x7b" ++ ",".intercalate parts ++ "\x7d"

mutual

/-- The JSON text of a value in a form; so many values inside one another may be written freely. -/
def writeIn (budget : Nat) (expected : Form) (v : Value) : Option String :=
  let form := if isTyped (expected.settle v) v then expected.settle v else .free
  let left := if isTyped (expected.settle v) v then budget else budget - 1
  if budget = 0 && !isTyped (expected.settle v) v then none
  else match v with
    | .list items => (writeItems? left (partForm form) items).map bracketed
    | .pair a b =>
      match writeIn left .free a, writeIn left .free b with
      | some a, some b => some (bracketed [a, b])
      | _, _ => none
    | .map entries => (writeEntries? left (partForm form) entries).map braced
    | .set items => (writeItems? left .free items).map bracketed
    | .record tag fields => (writeFields? left (fieldForms form tag) fields).map braced
    | .foreign _ =>
      match form with
      | .record _ _ => some (braced [])
      | _ => none
    | .shared _ content => writeIn left .free content
    | v =>
      match form with
      | .record _ _ => some (braced [])
      | .scalar kind => writeScalar? (asKind kind v)
      | _ => writeScalar? v

/-- The JSON texts of the items of a list. -/
def writeItems? (budget : Nat) (form : Form) : List Value → Option (List String)
  | [] => some []
  | v :: vs =>
    match writeIn budget form v, writeItems? budget form vs with
    | some t, some ts => some (t :: ts)
    | _, _ => none

/-- The JSON texts of the entries of a map. -/
def writeEntries? (budget : Nat) (form : Form) : List (Value × Value) → Option (List String)
  | [] => some []
  | (k, v) :: es =>
    match keyText? k, writeIn budget form v, writeEntries? budget form es with
    | some k, some t, some ts => some ((quote k ++ ":" ++ t) :: ts)
    | _, _, _ => none

/-- The JSON texts of those fields of a record whose forms are given. -/
def writeFields? (budget : Nat) (forms : List (String × Form)) :
    List (String × Value) → Option (List String)
  | [] => some []
  | (n, v) :: fs =>
    match forms.lookup n with
    | none => writeFields? budget forms fs
    | some form =>
      match writeIn budget form v, writeFields? budget forms fs with
      | some t, some ts => some ((quote n ++ ":" ++ t) :: ts)
      | _, _ => none

end

/-- How many values inside one another are written freely. -/
def freeNesting : Nat := 256

/-- The JSON text of a value. -/
def write? (v : Value) : Option String := writeIn freeNesting .free v

/-- Why a value cannot stand alone in a payload, if it cannot. -/
def alone? : Value → Option WriteFault
  | .foreign _ => some .unknownKind
  | .member m => if m.lacks.contains .lookup then some .uncheckable else none
  | _ => none

/-- The payload of a value; no payload holds half of a surrogate pair. -/
def encode (v : Value) : Except WriteFault Bytes :=
  match alone? v, write? v with
  | some fault, _ => .error fault
  | none, some t => if Utf8.isWhole t then .ok (Utf8.encode t) else .error .unwritable
  | none, none => .error .unwritable

end RestContract.Json
