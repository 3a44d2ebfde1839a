import RestContract.Yaml.Token
import RestContract.Number.Numeral
import RestContract.Value.Basic
import RestContract.Time.Moment

/-!
# Tags, and scalars of their types

A tag says of which type a node is. A plain scalar without a tag has the type whose form
its text has: truth values, numbers in several notations, dates and moments, the absent
value, and the marks for merging and for a default value; any other scalar is a text.
-/

namespace RestContract.Yaml

open Number (isDigit digitsValue)

/-- The types that every document knows. -/
inductive CoreTag where
  | null
  | bool
  | int
  | float
  | timestamp
  | merge
  | value
  | str
  | seq
  | map
  | set
  | binary
  | omap
  | pairs
  deriving DecidableEq, Repr

/-- The beginning of the tags that every document knows. -/
def coreBeginning : String := "tag:yaml.org,2002:"

/-- The types by the ends of their tags. -/
def coreNames : List (String × CoreTag) :=
  [("null", .null), ("bool", .bool), ("int", .int), ("float", .float), ("timestamp", .timestamp),
   ("merge", .merge), ("value", .value), ("str", .str), ("seq", .seq), ("map", .map), ("set", .set),
   ("binary", .binary), ("omap", .omap), ("pairs", .pairs)]

/-- The type of a tag, if every document knows it. -/
def CoreTag.ofText? (s : String) : Option CoreTag :=
  match Text.afterPrefix? coreBeginning.toList s.toList with
  | none => none
  | some rest => coreNames.lookup (String.ofList rest)

/-- The spellings of truth values. -/
def truths : List (String × Bool) :=
  [("yes", true), ("no", false), ("true", true), ("false", false), ("on", true), ("off", false)]

/-- The three ways to write a word: in small letters, with a capital, in capitals. -/
def spellings (word : String) : List String :=
  [word, word.capitalize, String.ofList (word.toList.map Char.toUpper)]

/-- Whether a text is a truth value. -/
def isTruth (s : String) : Bool := truths.any fun t => (spellings t.1).contains s

/-- Whether a text stands for the absent value. -/
def isNull (s : String) : Bool := s.isEmpty || s = "~" || (spellings "null").contains s

/-- A digit or an underscore. -/
def isLooseDigit (c : Char) : Bool := isDigit c || c = '_'

/-- A text without a sign. -/
def unsigned : List Char → List Char
  | '+' :: cs => cs
  | '-' :: cs => cs
  | cs => cs

/-- Whether a text is one or more groups of one or two digits below sixty behind colons. -/
def isSexagesimalTail : List Char → Bool
  | ':' :: a :: b :: rest =>
    if isDigit a && isDigit b then
      a.toNat < 0x36 && (rest.isEmpty || isSexagesimalTail rest)
    else isDigit a && b = ':' && isSexagesimalTail (b :: rest)
  | [':', a] => isDigit a
  | _ => false

/-- Whether a text is a whole number in one of the notations. -/
def isWhole (cs : List Char) : Bool :=
  match unsigned cs with
  | ['0'] => true
  | '0' :: 'b' :: rest => !rest.isEmpty && rest.all fun c => c = '0' || c = '1' || c = '_'
  | '0' :: 'x' :: rest =>
    !rest.isEmpty && rest.all fun c =>
      isDigit c || ('a' ≤ c && c ≤ 'f') || ('A' ≤ c && c ≤ 'F') || c = '_'
  | '0' :: rest => rest.all fun c => ('0' ≤ c && c ≤ '7') || c = '_'
  | c :: rest =>
    isDigit c &&
      (match rest.dropWhile isLooseDigit with
        | [] => true
        | tail => isSexagesimalTail tail)
  | [] => false

/-- Whether a text is empty or an exponent with its sign. -/
def isExponent : List Char → Bool
  | [] => true
  | mark :: sign :: digits =>
    (mark = 'e' || mark = 'E') &&
    (sign = '+' || sign = '-') && !digits.isEmpty && digits.all isDigit
  | _ => false

/-- The text before the last group of characters of a class. -/
def beforeLast (p : Char → Bool) (cs : List Char) : List Char := Text.trimEnd p cs

/-- Whether a text is sexagesimal up to a point, and digits behind it. -/
def isSexagesimalFloat (cs : List Char) : Bool :=
  match unsigned cs with
  | c :: rest =>
    let front := beforeLast isLooseDigit (c :: rest)
    isDigit c && front.getLast? = some '.' &&
      isSexagesimalTail (front.dropLast.dropWhile isLooseDigit)
  | [] => false

/-- Whether a text is a floating-point number in one of the notations. -/
def isFloat (cs : List Char) : Bool :=
  let digits := unsigned cs
  let word := String.ofList digits
  let pointed :=
    match digits with
    | c :: rest =>
      isDigit c && (match rest.dropWhile isLooseDigit with
        | '.' :: rest => isExponent (rest.dropWhile isLooseDigit)
        | _ => false)
    | [] => false
  let bare :=
    match cs with
    | '.' :: c :: rest => isDigit c && isExponent (rest.dropWhile isLooseDigit)
    | _ => false
  pointed || bare || isSexagesimalFloat cs || [".inf", ".Inf", ".INF"].contains word ||
    [".nan", ".NaN", ".NAN"].contains (String.ofList cs)

/-- The parts of a date or moment. -/
structure TimeParts where
  /-- The year, the month and the day. -/
  day : Nat × Nat × Nat
  /-- The hour, the minute and the second, if there is a clock time. -/
  clock : Option (Nat × Nat × Nat)
  /-- The digits of a fraction. -/
  fraction : List Char
  /-- The offset in minutes, if there is one. -/
  offset : Option Int

/-- The value of one or two digits at the beginning of a text, and how many they are. -/
def takeShort (cs : List Char) : Option (Nat × Nat × List Char) :=
  let ds := (cs.take 2).takeWhile isDigit
  if ds.isEmpty then none else some (digitsValue 0 ds, ds.length, cs.drop ds.length)

/-- The value of exactly two digits behind a mark. -/
def takePair (mark : Char) : List Char → Option (Nat × List Char)
  | m :: a :: b :: rest =>
    if m = mark && isDigit a && isDigit b then some (digitsValue 0 [a, b], rest) else none
  | _ => none

/-- The offset at the end of a moment. -/
def takeOffset? (cs : List Char) : Option (Option Int) :=
  match cs.dropWhile fun c => c = ' ' || c = '\t' with
  | [] => if cs.isEmpty then some none else none
  | ['Z'] => some (some 0)
  | sign :: rest =>
    if sign ≠ '+' && sign ≠ '-' then none
    else match takeShort rest with
      | none => none
      | some (hours, _, rest) =>
        let minutes? := if rest.isEmpty then some 0 else
          match takePair ':' rest with
          | some (m, []) => some m
          | _ => none
        minutes?.map fun m =>
          let n : Int := hours * 60 + m
          some (if sign = '-' then -n else n)

/-- The clock time behind a date. -/
def takeClock? (day : Nat × Nat × Nat) (cs : List Char) : Option TimeParts :=
  match takeShort cs with
  | none => none
  | some (hour, _, rest) =>
    match takePair ':' rest with
    | none => none
    | some (minute, rest) =>
      match takePair ':' rest with
      | none => none
      | some (second, rest) =>
        let (fraction, rest) := match rest with
          | '.' :: more => (more.takeWhile isDigit, more.dropWhile isDigit)
          | rest => ([], rest)
        (takeOffset? rest).map fun offset => ⟨day, some (hour, minute, second), fraction, offset⟩

/-- The parts of a text that is a date or a moment; a date alone has two digits for
month and day. -/
def timeParts? (strict : Bool) (cs : List Char) : Option TimeParts :=
  let year := cs.take 4
  match cs.drop 4 with
  | '-' :: rest =>
    if year.length = 4 && year.all isDigit then
      match takeShort rest with
      | some (month, monthLength, '-' :: rest) =>
        match takeShort rest with
        | none => none
        | some (day, dayLength, rest) =>
          let date := (digitsValue 0 year, month, day)
          match rest with
          | [] =>
            if strict && (monthLength ≠ 2 || dayLength ≠ 2) then none
            else some ⟨date, none, [], none⟩
          | mark :: more =>
            if mark = 'T' || mark = 't' then takeClock? date more
            else if mark = ' ' || mark = '\t' then
              takeClock? date (more.dropWhile fun c => c = ' ' || c = '\t')
            else none
      | _ => none
    else none
  | _ => none

/-- A text without a line feed at its end. -/
def withoutFeed (cs : List Char) : List Char := if cs.getLast? = some '\n' then cs.dropLast else cs

/-- The type of a plain scalar; a line feed at its end does not matter, unless it stands alone. -/
def plainTag (s : String) : CoreTag :=
  let cs := withoutFeed s.toList
  let word := String.ofList cs
  if isTruth word then .bool
  else if isFloat cs then .float
  else if isWhole cs then .int
  else if word = "<<" then .merge
  else if isNull word && s ≠ "\n" then .null
  else if (timeParts? true cs).isSome then .timestamp
  else if word = "=" then .value
  else .str

/-- The value of a whole numeral in a base. -/
def inBase (base : Nat) (mark : Char) (cs : List Char) : Except Fault Int :=
  match Number.intInBase? base mark cs with
  | some n => .ok n
  | none => .error .value

/-- The value of a free whole numeral. -/
def decimal (cs : List Char) : Except Fault Int :=
  match Number.intOfText (String.ofList cs) with
  | .ok n => .ok n
  | .error _ => .error .value

/-- The sign of a number and what follows it, without underscores. -/
def signed (s : String) : Except Fault (Bool × List Char) :=
  match s.toList.filter (· ≠ '_') with
  | [] => .error .empty
  | '-' :: cs => .ok (true, cs)
  | '+' :: cs => .ok (false, cs)
  | cs => .ok (false, cs)

/-- The value of numbers to the base of sixty. -/
def sexagesimal (parts : List Int) : Int := parts.foldl (fun n d => 60 * n + d) 0

/-- The whole number that a text stands for. -/
def readWhole (s : String) : Except Fault Value := do
  let (negative, cs) ← signed s
  let n ← match cs with
    | [] => .error .empty
    | ['0'] => pure 0
    | '0' :: 'b' :: rest => inBase 2 'b' rest
    | '0' :: 'x' :: rest => inBase 16 'x' rest
    | '0' :: rest => inBase 8 'o' ('0' :: rest)
    | cs =>
      if cs.contains ':' then do pure (sexagesimal (← (Text.splitAt ':' cs).mapM decimal))
      else decimal cs
  pure (.int (if negative then -n else n))

/-- The value of a free numeral. -/
def floating (cs : List Char) : Except Fault Float :=
  match Number.floatOfText? (String.ofList cs) with
  | some x => .ok x
  | none => .error .value

/-- The value of numbers to the base of sixty, the last one first, where the given one counts so
much. -/
def sexagesimalFrom (weight : Nat) (sum : Float) : List Float → Except Fault Float
  | [] => .ok sum
  | d :: ds =>
    let w := Number.ofWhole weight
    if w.isInf then .error .range else sexagesimalFrom (60 * weight) (sum + d * w) ds

/-- The value of numbers to the base of sixty; not all of very many can be weighed. -/
def sexagesimalFloat (parts : List Float) : Except Fault Float :=
  sexagesimalFrom 1 0.0 parts.reverse

/-- The floating-point number that a text stands for. -/
def readFloat (s : String) : Except Fault Value := do
  let (negative, cs) ← signed (String.ofList (Number.lowerAscii s.toList))
  let x ←
    if cs = ".inf".toList then pure Number.infinity
    else if cs = ".nan".toList then pure Number.notANumber
    else if cs.contains ':' then do sexagesimalFloat (← (Text.splitAt ':' cs).mapM floating)
    else floating cs
  pure (.float (if negative then -x else x))

/-- The truth value that a text stands for. -/
def readTruth (s : String) : Except Fault Value :=
  match truths.lookup (String.ofList (Number.lowerAscii s.toList)) with
  | some b => .ok (.bool b)
  | none => .error .truth

/-- The date or moment of some parts. -/
def TimeParts.toValue (p : TimeParts) : Except Fault Value :=
  match Date.of p.day.1 p.day.2.1 p.day.2.2 with
  | .error _ => .error .value
  | .ok date =>
    match p.clock with
    | none => .ok (.date date)
    | some (hour, minute, second) =>
      let kept := p.fraction.take 6
      let micro := digitsValue 0 kept * Nat.pow 10 (6 - kept.length)
      if 23 < hour || 59 < minute || 59 < second then .error .value
      else
        let clock := ((hour * 60 + minute) * 60 + second) * 1000000 + micro
        let offset := p.offset.map (· * 60000000)
        if hc : clock < dayLength then
          match ho : offset.all fun o => decide (o.natAbs < dayLength) with
          | true =>
            .ok (.moment ⟨date, clock, offset, hc, by intro o h; rw [h] at ho; simpa using ho⟩)
          | false => .error .value
        else .error .value

/-- The date or moment that a text stands for. -/
def readTime (s : String) : Except Fault Value :=
  match timeParts? false (withoutFeed s.toList) with
  | none => .error .form
  | some p => p.toValue

end RestContract.Yaml
