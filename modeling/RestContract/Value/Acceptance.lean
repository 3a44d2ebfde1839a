import RestContract.Value.Shape
import RestContract.Value.Order
import RestContract.Time.Stamp
import RestContract.Number.Lenient

/-!
# Accepting values of a shape

A value is accepted for a shape when it is of that shape or can be turned into a value
of it without loss: numbers and dates are read from texts, a whole float is a whole
number, an object becomes a record. Of several shapes the one that fits best is taken:
exactly, then closely, then loosely, where among records the one with more fields
counts first. What is refused is answered with the number of its faults, one for every
missing field and every part of a wrong kind. An object of a payload may name an entry
several times; each value is checked then, and the last one counts.
-/

namespace RestContract

/-- Where a value comes from: read from a payload, or handed over by a caller. -/
inductive Origin where
  /-- Read from a payload. -/
  | payload
  /-- Handed over by a caller. -/
  | caller
  deriving DecidableEq, Repr

/-- How well a value fits a shape. -/
inductive Fit where
  /-- It was turned into another kind of value. -/
  | loose
  /-- It was written in the usual form of the shape. -/
  | close
  /-- It was of the shape already. -/
  | exact
  deriving DecidableEq, Repr

namespace Fit

/-- The order of fits. -/
def rank : Fit → Nat
  | .loose => 0
  | .close => 1
  | .exact => 2

/-- The worse of two fits. -/
def worse (a b : Fit) : Fit := if a.rank ≤ b.rank then a else b

end Fit

/-- Why a value is refused. -/
inductive Refusal where
  /-- So many parts are missing or of a wrong kind. -/
  | faults (count : Nat)
  /-- A value has no order with its bound. -/
  | incomparable
  deriving DecidableEq, Repr

/-- An accepted value, with how well it fits and how many fields of records were given. -/
structure Accepted where
  /-- The value in its shape. -/
  value : Value
  /-- How well the value fits. -/
  fit : Fit
  /-- How many fields of records were given, if there are records. -/
  given : Option Nat

/-- The answer to a value: accepted, or refused. -/
abbrev Verdict := Except Refusal Accepted

namespace Verdict

/-- A single fault. -/
def fault : Verdict := .error (.faults 1)

/-- A value accepted with the given fit. -/
def accept (fit : Fit) (v : Value) : Verdict := .ok ⟨v, fit, none⟩

/-- A single fault, or a value accepted with the given fit. -/
def ofOption (fit : Fit) : Option Value → Verdict
  | none => fault
  | some v => accept fit v

end Verdict

/-- The sum of two counts of given fields. -/
def addGiven : Option Nat → Option Nat → Option Nat
  | none, b => b
  | a, none => a
  | some a, some b => some (a + b)

/-- Joins the answers to a first part and to the rest; faults add up, and what cannot be compared
comes first. -/
def joinVerdicts (first : Verdict) (rest : Except Refusal (List Value × Fit × Option Nat)) :
    Except Refusal (List Value × Fit × Option Nat) :=
  match first, rest with
  | .error .incomparable, _ => .error .incomparable
  | _, .error .incomparable => .error .incomparable
  | .error (.faults m), .error (.faults n) => .error (.faults (m + n))
  | .error e, .ok _ => .error e
  | .ok _, .error e => .error e
  | .ok a, .ok (vs, fit, given) => .ok (a.value :: vs, a.fit.worse fit, addGiven a.given given)

/-- The answers to several parts together. -/
def joinAll (verdicts : List Verdict) : Except Refusal (List Value × Fit × Option Nat) :=
  verdicts.foldr joinVerdicts (.ok ([], .exact, none))

/-- The text of a value that counts as a text. -/
def acceptText (origin : Origin) : Value → Verdict
  | .text s => Verdict.accept .exact (.text s)
  | .member m => if origin = .caller then Verdict.accept .close (.text m.value) else Verdict.fault
  | .bytes b => Verdict.ofOption .loose ((Utf8.decode? b).map .text)
  | _ => Verdict.fault

/-- The text from which another kind of value is read. -/
def sourceText? (origin : Origin) : Value → Option String
  | .text s => some s
  | .member m => if origin = .caller then some m.value else none
  | _ => none

/-- The whole number of a float, when it is one that fits into 64 bits. -/
def wholeOfFloat? (x : Float) : Option Int :=
  match Number.wholeOfFloat? x with
  | some n => if n.natAbs < Nat.pow 2 63 then some n else none
  | none => none

/-- Accepts a whole number. -/
def acceptInteger (origin : Origin) (v : Value) : Verdict :=
  match v with
  | .int n => Verdict.accept .exact (.int n)
  | .bool b => Verdict.accept .loose (.int (if b then 1 else 0))
  | .float x => Verdict.ofOption .loose ((wholeOfFloat? x).map .int)
  | v => Verdict.ofOption .loose (((sourceText? origin v).bind Number.wholeOfText?).map .int)

/-- Accepts a floating-point number. -/
def acceptFloat (origin : Origin) (v : Value) : Verdict :=
  match v with
  | .float x => Verdict.accept .exact (.float x)
  | .int n =>
    let x := Number.ofWhole n
    if x.isInf && origin = .caller then Verdict.fault else Verdict.accept .close (.float x)
  | .bool b => Verdict.accept .loose (.float (if b then 1.0 else 0.0))
  | v => Verdict.ofOption .loose (((sourceText? origin v).bind Number.floatOfLooseText?).map .float)

/-- Accepts a truth value. -/
def acceptBoolean (origin : Origin) (v : Value) : Verdict :=
  match v with
  | .bool b => Verdict.accept .exact (.bool b)
  | .int n =>
    if n = 0 then Verdict.accept .loose (.bool false)
    else if n = 1 then Verdict.accept .loose (.bool true) else Verdict.fault
  | .float x =>
    if x == 0.0 then Verdict.accept .loose (.bool false)
    else if x == 1.0 then Verdict.accept .loose (.bool true) else Verdict.fault
  | v => Verdict.ofOption .loose (((sourceText? origin v).bind Number.truthOfText?).map .bool)

/-- The fit of a date or a moment that a text stands for in its usual form: a payload has no other
form. -/
def textFit : Origin → Fit
  | .payload => .exact
  | .caller => .loose

/-- Accepts a date with a clock time. -/
def acceptMoment (origin : Origin) (v : Value) : Verdict :=
  match v with
  | .moment t => Verdict.accept .exact (.moment t)
  | .date d => Verdict.accept .loose (.moment (Moment.midnight d))
  | .int n => Verdict.ofOption .loose ((Stamp.momentOfNumber? n 0).map .moment)
  | .float x => Verdict.ofOption .loose ((Stamp.momentOfFloat? x).map .moment)
  | v =>
    match sourceText? origin v with
    | none => Verdict.fault
    | some s =>
      Verdict.ofOption (if Stamp.isDateText s then .loose else textFit origin)
        ((Stamp.momentOfText? s).map .moment)

/-- Accepts a date; a moment counts when it is a midnight. -/
def acceptDate (origin : Origin) (v : Value) : Verdict :=
  match v with
  | .date d => Verdict.accept .exact (.date d)
  | .moment t => Verdict.ofOption .loose ((Stamp.dateOfMidnight? t).map .date)
  | .int n =>
    Verdict.ofOption .loose (((Stamp.momentOfNumber? n 0).bind Stamp.dateOfMidnight?).map .date)
  | .float x =>
    Verdict.ofOption .loose (((Stamp.momentOfFloat? x).bind Stamp.dateOfMidnight?).map .date)
  | v =>
    match sourceText? origin v with
    | none => Verdict.fault
    | some s =>
      match Stamp.dateOfText? s with
      | some d => Verdict.accept (textFit origin) (.date d)
      | none =>
        Verdict.ofOption .loose (((Stamp.momentOfText? s).bind Stamp.dateOfMidnight?).map .date)

/-- Accepts a member of a class, or the text of one. -/
def acceptMember (origin : Origin) (c : EnumClass) (v : Value) : Verdict :=
  match v with
  | .member m =>
    if origin = .caller && m.className = c.name then Verdict.accept .exact (.member m)
    else Verdict.ofOption .loose (((sourceText? origin v).bind c.find?).map .member)
  | v => Verdict.ofOption .loose (((sourceText? origin v).bind c.find?).map .member)

/-! ## Bounds -/

/-- The shape that a bound on a shape is about: where a value may be absent, that of the other
values. -/
def Shape.bounded : Shape → Shape
  | .union options =>
    match options.filter fun s => !s.isNull with
    | [s] => s
    | rest => .union rest
  | s => s

/-- A bound as it is compared with the values of a shape, none when it can be no bound of them. -/
def Shape.bound? (s : Shape) (bound : Value) : Option Value :=
  match s.bounded, bound with
  | .integer, .int n => some (.int n)
  | .integer, .bool b => some (.int (if b then 1 else 0))
  | .integer, _ => none
  | .float, .float x => some (.float x)
  | .float, v =>
    match v.asWhole? with
    | none => none
    | some n => if (Number.ofWhole n).isInf then none else some (.float (Number.ofWhole n))
  | .date, .date d => some (.date d)
  | .date, .moment t => some (.date t.date)
  | .date, _ => none
  | .moment, .moment t => some (.moment t)
  | .moment, _ => none
  | _, v => some v

/-- How two moments stand to one another; when one offset is unknown the clocks are compared. -/
def relateMoments (t u : Moment) : Relation :=
  if t.offset.isSome = u.offset.isSome then .ofOrdering (compare t.instant u.instant)
  else .ofOrdering
    (compare (t.date.dayNumber * dayLength + t.clock) (u.date.dayNumber * dayLength + u.clock))

/-- How an accepted value of a shape stands to a bound, if they have an order. -/
def Shape.relate? (s : Shape) (v bound : Value) : Option Relation :=
  match s.bounded, v, bound with
  | .moment, .moment t, .moment u => some (relateMoments t u)
  | _, v, bound => Value.relate? v bound

/-- Checks that an accepted value of a shape stands to a bound in one of two ways; an absent value
passes where it may be absent. -/
def Shape.checkBound (s : Shape) (bound : Option Value) (side : Relation) (a : Accepted) :
    Verdict :=
  match bound with
  | none => .ok a
  | some b =>
    if a.value.isNull && s.options.any Shape.isNull && s.options.length ≠ 1 then .ok a
    else match s.relate? a.value b with
      | none => .error .incomparable
      | some r => if r = side || r = .equal then .ok a else Verdict.fault

/-- Checks an accepted value of a shape against the bounds of its field. -/
def Shape.checkBounds (s : Shape) (least most : Option Value) (a : Accepted) : Verdict :=
  (s.checkBound least .behind a).bind (s.checkBound most .before)

/-! ## Several shapes -/

/-- Whether a first match is better than a second one. -/
def betterMatch (a b : Accepted) : Bool :=
  match b.given, a.given with
  | some m, some n => if m ≠ n then m < n else b.fit.rank < a.fit.rank
  | _, _ => b.fit.rank < a.fit.rank

/-- The best of the matches in order; an exact one without records is taken at once. -/
def bestMatch (best : Option Accepted) : List Accepted → Option Accepted
  | [] => best
  | a :: rest =>
    if a.fit = .exact && a.given.isNone then some a
    else match best with
      | none => bestMatch (some a) rest
      | some b => bestMatch (some (if betterMatch a b then a else b)) rest

/-- The answer to a value from the answers of several options. -/
def chooseOption (verdicts : List Verdict) : Verdict :=
  if verdicts.any fun v => match v with
    | .error .incomparable => true
    | _ => false then .error .incomparable
  else
    match bestMatch none (verdicts.filterMap (·.toOption)) with
    | some a => .ok a
    | none => .error (.faults (verdicts.foldl (fun n v => match v with
        | .error (.faults m) => n + m
        | _ => n) 0))

/-- The value of a container's part, in whose maps each name of a payload stands once. -/
def partOf (origin : Origin) (v : Value) : Value :=
  match origin with
  | .payload => v.settled
  | .caller => v

/-- The items of a value that a caller may hand over as a list; a record is one of its names and
values. -/
def itemsOf? (origin : Origin) (v : Value) : Option (Fit × List Value) :=
  match v with
  | .list items => some (.exact, items)
  | .pair a b => if origin = .caller then some (.loose, [a, b]) else none
  | .record _ fields =>
    if origin = .caller then some (.loose, fields.map fun f => .pair (.text f.1) f.2) else none
  | _ => none

/-- Accepts a list of items that have been answered one by one. -/
def acceptItems (fit : Fit) (verdicts : List Verdict) : Verdict :=
  (joinAll verdicts).map fun r => ⟨.list r.1, r.2.1.worse fit, r.2.2⟩

/-- Accepts the name of an entry. -/
def acceptName (origin : Origin) (v : Value) : Verdict :=
  match origin, v with
  | .payload, .text s => Verdict.accept .close (.text s)
  | origin, v => acceptText origin v

/-- Accepts a map whose names and values have been answered one by one. -/
def acceptEntries (names values : List Verdict) : Verdict :=
  match joinAll names, joinAll values with
  | .ok ks, .ok vs => .ok ⟨.map (mergeKeys (ks.1.zip vs.1)), ks.2.1.worse vs.2.1, vs.2.2⟩
  | .error .incomparable, _ => .error .incomparable
  | _, .error .incomparable => .error .incomparable
  | .error (.faults m), .error (.faults n) => .error (.faults (m + n))
  | .error e, .ok _ => .error e
  | .ok _, .error e => .error e

mutual

/-- The answer to a value for a shape. -/
def Shape.accept (origin : Origin) : Shape → Value → Verdict
  | .text, v => acceptText origin v
  | .integer, v => acceptInteger origin v
  | .float, v => acceptFloat origin v
  | .boolean, v => acceptBoolean origin v
  | .moment, v => acceptMoment origin v
  | .date, v => acceptDate origin v
  | .anyMap, v =>
    match v with
    | .map entries =>
      Verdict.accept (if entries.isEmpty then .exact else .close) (partOf origin (.map entries))
    | _ => Verdict.fault
  | .anyList, v =>
    match itemsOf? origin v with
    | some (fit, items) => Verdict.accept fit (partOf origin (.list items))
    | none => Verdict.fault
  | .any, v => Verdict.accept .close (partOf origin v)
  | .null, v => if v.isNull then Verdict.accept .exact .null else Verdict.fault
  | .enumeration c, v => acceptMember origin c v
  | .record tag fields, v =>
    match v with
    | .record other values =>
      if origin = .caller && other.isOf .loose tag.key then
        Verdict.accept .exact (.record other values)
      else Verdict.fault
    | .map entries =>
      match acceptFields origin fields entries with
      | .error e => .error e
      | .ok (values, given) => .ok ⟨.record tag values, .close, some given⟩
    | _ => Verdict.fault
  | .listOf item, v =>
    match itemsOf? origin v with
    | some (fit, items) =>
      if item.isAny then Verdict.accept fit (partOf origin (.list items))
      else acceptItems fit (items.map fun v => item.accept origin v)
    | none => Verdict.fault
  | .mapOf shape, v =>
    match v with
    | .map entries =>
      acceptEntries (entries.map fun e => acceptName origin e.1)
        (entries.map fun e => shape.accept origin e.2)
    | _ => Verdict.fault
  | .union options, v =>
    if options.any Shape.isNull && v.isNull then Verdict.accept .exact .null
    else chooseOption (acceptOptions origin options v)

/-- The answers of the options that stand for more than the absent value. -/
def acceptOptions (origin : Origin) : List Shape → Value → List Verdict
  | [], _ => []
  | s :: rest, v =>
    if s.isNull then acceptOptions origin rest v
    else s.accept origin v :: acceptOptions origin rest v

/-- The values of the fields of a record, and how many of them were given. -/
def acceptFields (origin : Origin) :
    List (RecordField Shape) → List (Value × Value) → Except Refusal (List (String × Value) × Nat)
  | [], _ => .ok ([], 0)
  | ⟨name, shape, fallback, least, most⟩ :: rest, entries =>
    let first : Except Refusal (Value × Nat) :=
      match lastUnder? (.text name) entries with
      | none =>
        match fallback with
        | some v => .ok (v, 0)
        | none => .error (.faults 1)
      | some v =>
        match shape.accept origin v with
        | .error e => .error e
        | .ok a => (shape.checkBounds least most a).map fun a => (a.value, a.given.getD 0 + 1)
    match first, acceptFields origin rest entries with
    | .error .incomparable, _ => .error .incomparable
    | _, .error .incomparable => .error .incomparable
    | .error (.faults m), .error (.faults n) => .error (.faults (m + n))
    | .error e, .ok _ => .error e
    | .ok _, .error e => .error e
    | .ok (v, m), .ok (vs, n) => .ok ((name, v) :: vs, m + n)

end

end RestContract
