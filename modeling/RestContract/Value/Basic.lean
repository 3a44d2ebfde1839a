import RestContract.Time.Moment
import RestContract.Text.Utf8
import RestContract.Number.Rounding

/-!
# Values

The values that parameters, payloads and documents hold. A map keeps its entries in the
order of their first insertion and has one entry for each key; keys are equal when they
are the same text, date or moment, or the same number, where truth values count as
numbers. A class of texts with named members gives its members; the authentication
requirements are members of such a class too. A record names its class and holds the values
of its fields in their order. A list or a map that stands
inside itself has a label, and where it stands again there is only the label.
-/

namespace RestContract

/-- What the members of a class of texts can do, unless a text of the class takes its place. -/
inductive Ability where
  /-- To have a plain text. -/
  | text
  /-- To stand in a longer text. -/
  | insertion
  /-- To have a quoted text. -/
  | quoting
  /-- To count as true or false. -/
  | truth
  /-- To be a key. -/
  | key
  /-- To be written in capitals. -/
  | capitals
  /-- To be asked for its beginning. -/
  | beginning
  /-- To be cut at its ends. -/
  | trimming
  /-- To be told apart from a text that no member stands for. -/
  | lookup
  deriving DecidableEq, Repr

/-- Whether callers have to authenticate. -/
inductive Auth where
  /-- Callers may stay unknown. -/
  | anonymous
  /-- Callers have to be known. -/
  | required
  deriving DecidableEq, Repr, Inhabited

namespace Auth

/-- The name of a requirement. -/
def name : Auth → String
  | .anonymous => "none"
  | .required => "required"

/-- The requirement of a name. -/
def ofName? (s : String) : Option Auth :=
  if s = "none" then some .anonymous else if s = "required" then some .required else none

end Auth

/-- One member of a class of texts. -/
structure EnumMember where
  /-- The name of the class. -/
  className : String
  /-- The name of the member. -/
  name : String
  /-- The text that stands for the member. -/
  value : String
  /-- What the member cannot do. -/
  lacks : List Ability
  /-- The requirement that the member is, if its class is that of the requirements. -/
  requirement : Option Auth
  deriving DecidableEq, Repr, Inhabited

/-- The member that a requirement is. -/
def Auth.member : Auth → EnumMember
  | .anonymous => ⟨"AuthRequirement", "NONE", Auth.anonymous.name, [], some .anonymous⟩
  | .required => ⟨"AuthRequirement", "REQUIRED", Auth.required.name, [], some .required⟩

/-- The kinds of values that are neither containers nor records. -/
inductive Scalar where
  | null
  | boolean
  | integer
  | float
  | text
  | date
  | moment
  /-- The members of a class. -/
  | member (className : String)
  deriving DecidableEq, Repr

/-- How a value is written in a payload. -/
inductive Form where
  /-- As the value itself says. -/
  | free
  /-- As a value of a kind. -/
  | scalar (kind : Scalar)
  /-- As a list of items of one form. -/
  | listOf (item : Form)
  /-- As a map with values of one form. -/
  | mapOf (value : Form)
  /-- As a record of a class, with the fields that are known there. -/
  | record (key : Nat) (fields : List (String × Form))
  /-- In a form, unless the value is absent. -/
  | nullable (form : Form)
  /-- In the form that fits the value best. -/
  | union (options : List Form)
  deriving Repr, Inhabited

/-- What identifies the class of a record, and how its fields are written. -/
structure RecordTag where
  /-- Tells classes of the same name apart. -/
  key : Nat
  /-- The name of the class. -/
  name : String
  /-- The keys of the classes that the class extends. -/
  ancestors : List Nat
  /-- How the fields are written. -/
  forms : List (String × Form)
  deriving Repr, Inhabited

/-- What no payload can hold. -/
inductive Foreign where
  /-- Some object. -/
  | object
  /-- A function. -/
  | function
  /-- A function of a class. -/
  | method
  /-- A computed part of a class. -/
  | property
  /-- A function of the language itself. -/
  | builtin
  deriving DecidableEq, Repr, Inhabited

/-- A value of a parameter, a payload or a document. -/
inductive Value where
  /-- The absent value. -/
  | null
  /-- A truth value. -/
  | bool (b : Bool)
  /-- A whole number. -/
  | int (n : Int)
  /-- A floating-point number. -/
  | float (x : Float)
  /-- A text. -/
  | text (s : String)
  /-- Bytes that stand for nothing else. -/
  | bytes (b : Bytes)
  /-- A calendar date. -/
  | date (d : Date)
  /-- A date with a clock time. -/
  | moment (t : Moment)
  /-- A member of a class of texts. -/
  | member (m : EnumMember)
  /-- A list of values. -/
  | list (items : List Value)
  /-- Two values in order. -/
  | pair (first second : Value)
  /-- Entries in the order of their first insertion. -/
  | map (entries : List (Value × Value))
  /-- Values without an order, each once. -/
  | set (items : List Value)
  /-- A record with its fields. -/
  | record (tag : RecordTag) (fields : List (String × Value))
  /-- Something that no payload can hold. -/
  | foreign (kind : Foreign)
  /-- A list or a map that stands inside itself, known there by a label. -/
  | shared (label : Nat) (content : Value)
  /-- The list or map of a label, inside itself. -/
  | again (label : Nat) (isMap : Bool)
  deriving Inhabited

namespace Value

/-- Whether a value counts as true. -/
def isTruthy : Value → Bool
  | .null => false
  | .bool b => b
  | .int n => n != 0
  | .float x => x != 0.0
  | .text s => !s.isEmpty
  | .bytes b => !b.isEmpty
  | .member m => !m.value.isEmpty
  | .list items => !items.isEmpty
  | .map entries => !entries.isEmpty
  | .set items => !items.isEmpty
  | .shared _ content => content.isTruthy
  | _ => true

/-- Whether a value is the absent one. -/
def isNull : Value → Bool
  | .null => true
  | _ => false

/-- The text of a text or of a member. -/
def asText? : Value → Option String
  | .text s => some s
  | .member m => some m.value
  | _ => none

/-- The requirement that a value is, if it is one. -/
def requirement? : Value → Option Auth
  | .member m => m.requirement
  | _ => none

/-- Whether a value can be a key of a map. -/
def isKey : Value → Bool
  | .member m => !m.lacks.contains .key
  | .list _ => false
  | .pair a b => a.isKey && b.isKey
  | .map _ => false
  | .set _ => false
  | .record _ _ => false
  | .shared _ _ => false
  | .again _ _ => false
  | _ => true

/-- The number that a key counts as: truth values are zero and one,
and a whole float is its number. -/
def wholeKey? : Value → Option Int
  | .bool b => some (if b then 1 else 0)
  | .int n => some n
  | .float x => Number.wholeOfFloat? x
  | _ => none

/-- Whether two keys of a map are the same key. -/
def sameKey (a b : Value) : Bool :=
  match a.wholeKey?, b.wholeKey? with
  | some m, some n => m == n
  | some _, none => false
  | none, some _ => false
  | none, none =>
    match a, b with
    | .null, .null => true
    | .float x, .float y => x == y || (x.isNaN && y.isNaN)
    | .bytes x, .bytes y => x == y
    | .date d, .date e => d == e
    | .moment t, .moment u =>
      if t.offset.isSome == u.offset.isSome then t.instant == u.instant else false
    | a, b =>
      match a.asText?, b.asText? with
      | some s, some t => s == t
      | _, _ => false

end Value

/-- The value stored under a key. -/
def lookupKey (key : Value) (entries : List (Value × α)) : Option α :=
  (entries.find? fun e => e.1.sameKey key).map (·.2)

/-- The last value under a key, where a key may stand several times. -/
def lastUnder? (key : Value) (entries : List (Value × α)) : Option α :=
  lookupKey key entries.reverse

/-- Stores a value under a key, in its place when the key is there and at the end otherwise. -/
def storeKey (key : Value) (value : α) : List (Value × α) → List (Value × α)
  | [] => [(key, value)]
  | e :: rest => if e.1.sameKey key then (e.1, value) :: rest else e :: storeKey key value rest

/-- Entries of which each key stands once, in its first place and with its last value. -/
def mergeKeys (entries : List (Value × α)) : List (Value × α) :=
  entries.foldl (fun merged e => storeKey e.1 e.2 merged) []

namespace Value

mutual

/-- A value in whose maps each key stands once. -/
def settled : Value → Value
  | .list items => .list (settledItems items)
  | .map entries => .map (mergeKeys (settledEntries entries))
  | v => v

/-- Some values in whose maps each key stands once. -/
def settledItems : List Value → List Value
  | [] => []
  | v :: vs => v.settled :: settledItems vs

/-- Some entries in whose maps each key stands once. -/
def settledEntries : List (Value × Value) → List (Value × Value)
  | [] => []
  | (k, v) :: es => (k, v.settled) :: settledEntries es

end

mutual

/-- A value with the whole of a labelled container where it stands again. -/
def restore (label : Nat) (whole : Value) : Value → Value
  | .again l isMap => if l = label then whole else .again l isMap
  | .list items => .list (restoreItems label whole items)
  | .pair a b => .pair (restore label whole a) (restore label whole b)
  | .map entries => .map (restoreEntries label whole entries)
  | .shared l content =>
    if l = label then .shared l content else .shared l (restore label whole content)
  | v => v

/-- Some values with the whole of a labelled container where it stands again. -/
def restoreItems (label : Nat) (whole : Value) : List Value → List Value
  | [] => []
  | v :: vs => restore label whole v :: restoreItems label whole vs

/-- Some entries with the whole of a labelled container where it stands again. -/
def restoreEntries (label : Nat) (whole : Value) : List (Value × Value) → List (Value × Value)
  | [] => []
  | (k, v) :: es => (k, restore label whole v) :: restoreEntries label whole es

end

/-- A value with its parts at hand: in those of a labelled container it stands as a whole again. -/
def opened : Value → Value
  | .shared label content => restore label (.shared label content) content
  | v => v

/-- Two texts are the same key exactly when they are equal. -/
@[simp] theorem sameKey_text (s t : String) : sameKey (.text s) (.text t) = (s == t) := rfl

end Value

/-- Stores a value under a name, in its place when the name is there and at the end otherwise. -/
def storeName (name : String) (value : α) : List (String × α) → List (String × α)
  | [] => [(name, value)]
  | e :: rest => if e.1 = name then (e.1, value) :: rest else e :: storeName name value rest

/-- Looking up a stored name gives what was stored last. -/
theorem lookup_storeName (name other : String) (value : α) (entries : List (String × α)) :
    (storeName name value entries).lookup other =
      if other = name then some value else entries.lookup other := by
  induction entries with
  | nil =>
    by_cases h : other = name
    · simp [storeName, h]
    · have : (other == name) = false := by simp [h]
      simp [storeName, List.lookup_cons, h, this]
  | cons e rest ih =>
    obtain ⟨k, v⟩ := e
    by_cases hk : k = name
    · subst hk
      by_cases ho : other = k
      · subst ho; simp [storeName]
      · have : (other == k) = false := by simp [ho]
        simp [storeName, List.lookup_cons, ho, this]
    · by_cases ho : other = k
      · subst ho
        simp [storeName, hk]
      · have : (other == k) = false := by simp [ho]
        simp [storeName, List.lookup_cons, hk, this, ih]

end RestContract
