import RestContract.Text.Blank
import RestContract.Text.DigitTable
import RestContract.Number.Rounding

/-!
# Numerals as texts

A whole numeral is a sign and digits. A decimal numeral may have a point and an
exponent, with at least one digit beside the point. The strict numerals are plain ASCII
with nothing around them; the free numerals allow white space around them, single
underscores between digits, digits of every script, and names for what is not finite.
No text is read as a whole number when it has more than 4300 digits.
-/

namespace RestContract.Number

/-- The most digits of a whole number that is read from a text or written as one. -/
def maxDigits : Nat := 4300

/-- A decimal digit in ASCII. -/
def isDigit (c : Char) : Bool := '0' ≤ c && c ≤ '9'

/-- The value of ASCII digits, after those already read into `acc`. -/
def digitsValue (acc : Nat) (cs : List Char) : Nat :=
  cs.foldl (fun n c => 10 * n + (c.toNat - 0x30)) acc

/-- A leading sign, and the rest of the text. -/
def takeSign : List Char → Bool × List Char
  | '-' :: cs => (true, cs)
  | '+' :: cs => (false, cs)
  | cs => (false, cs)

/-- A sign and its digits, when a text is exactly that. -/
structure WholeNumeral where
  /-- Whether the sign is a minus. -/
  negative : Bool
  /-- The digits. -/
  digits : List Char
  deriving DecidableEq, Repr

/-- Reads an optional sign and one or more digits, with nothing around them. -/
def WholeNumeral.ofText? (cs : List Char) : Option WholeNumeral :=
  let (negative, digits) := takeSign cs
  if !digits.isEmpty && digits.all isDigit then some ⟨negative, digits⟩ else none

/-- The number that a whole numeral stands for. -/
def WholeNumeral.value (w : WholeNumeral) : Int :=
  let n : Int := digitsValue 0 w.digits
  if w.negative then -n else n

/-- A decimal numeral, cut into its parts. -/
structure DecimalNumeral where
  /-- Whether the sign is a minus. -/
  negative : Bool
  /-- The digits before the point. -/
  whole : List Char
  /-- The digits after the point. -/
  places : List Char
  /-- The exponent, zero when none is written. -/
  exponent : Int
  deriving DecidableEq, Repr

/-- Reads an exponent mark with its numeral, or nothing. -/
def exponent? : List Char → Option Int
  | [] => some 0
  | c :: cs => if c = 'e' || c = 'E' then (WholeNumeral.ofText? cs).map (·.value) else none

/-- Reads a decimal numeral with nothing around it. -/
def DecimalNumeral.ofText? (cs : List Char) : Option DecimalNumeral :=
  let (negative, cs) := takeSign cs
  let whole := cs.takeWhile isDigit
  match cs.dropWhile isDigit with
  | '.' :: cs =>
    let places := cs.takeWhile isDigit
    if whole.isEmpty && places.isEmpty then none
    else (exponent? (cs.dropWhile isDigit)).map (⟨negative, whole, places, ·⟩)
  | cs => if whole.isEmpty then none else (exponent? cs).map (⟨negative, whole, [], ·⟩)

/-- The double nearest to `digits · 10^exponent`; far outside the range it is infinite or zero. -/
def nearest (digits : Nat) (exponent : Int) : Float :=
  if digits = 0 then 0.0
  else
    let lead := (digits.log2 : Int) * 1233 / 4096 + exponent
    if lead > 400 then infinity
    else if lead < -400 then 0.0
    else if exponent < 0 then ofQuotient digits (Nat.pow 10 (-exponent).toNat)
    else ofQuotient (digits * Nat.pow 10 exponent.toNat) 1

/-- The double nearest to a decimal numeral. -/
def DecimalNumeral.value (d : DecimalNumeral) : Float :=
  let x := nearest (digitsValue 0 (d.whole ++ d.places)) (d.exponent - d.places.length)
  if d.negative then -x else x

/-- A text with the digits of every script written in ASCII. -/
def asciiDigits (cs : List Char) : List Char :=
  cs.map fun c => match Text.digitValue? c with
    | some n => Char.ofNat (0x30 + n)
    | none => c

/-- Removes underscores when each of them stands between two digits. -/
def dropUnderscores? (before : Bool) : List Char → Option (List Char)
  | [] => some []
  | '_' :: c :: cs =>
    if before && isDigit c then (dropUnderscores? true cs).map (c :: ·) else none
  | c :: cs => if c = '_' then none else (dropUnderscores? (isDigit c) cs).map (c :: ·)

/-- Lower-case ASCII letters for upper-case ones. -/
def lowerAscii (cs : List Char) : List Char := cs.map Char.toLower

/-- The value of a strict decimal numeral or of a name for what is not finite. -/
def plainFloat? (cs : List Char) : Option Float :=
  match DecimalNumeral.ofText? cs with
  | some d => some d.value
  | none =>
    let (negative, word) := takeSign (lowerAscii cs)
    let word := String.ofList word
    if word = "inf" || word = "infinity" then some (if negative then -infinity else infinity)
    else if word = "nan" then some notANumber
    else none

/-- The value of a free numeral or of a name for what is not finite. -/
def floatOfText? (s : String) : Option Float :=
  (dropUnderscores? false (asciiDigits (Text.trim Text.isSpace s.toList))).bind plainFloat?

/-- Why a text is not read as a whole number. -/
inductive WholeError where
  /-- The text is no numeral. -/
  | malformed
  /-- The numeral has too many digits. -/
  | tooLong (digits : Nat)
  deriving DecidableEq, Repr

/-- The value of a free whole numeral. -/
def intOfText (s : String) : Except WholeError Int :=
  match dropUnderscores? false (asciiDigits (Text.trim Text.isSpace s.toList)) with
  | none => .error .malformed
  | some cs =>
    match WholeNumeral.ofText? cs with
    | none => .error .malformed
    | some w =>
      if w.digits.length > maxDigits then .error (.tooLong w.digits.length) else .ok w.value

/-- The value of a digit in a base up to sixteen. -/
def baseDigit? (base : Nat) (c : Char) : Option Nat :=
  let n :=
    if isDigit c then c.toNat - 0x30
    else if 'a' ≤ c && c ≤ 'f' then c.toNat - 0x57
    else if 'A' ≤ c && c ≤ 'F' then c.toNat - 0x37
    else base
  if n < base then some n else none

/-- The digits of a whole numeral behind the mark of its base, if the mark is there. -/
def behindMark (mark : Char) : List Char → List Char
  | '0' :: c :: cs => if c.toLower = mark then cs else '0' :: c :: cs
  | cs => cs

/-- The value of a free whole numeral in a base; a zero and the mark of the base may stand before
its digits. -/
def intInBase? (base : Nat) (mark : Char) (cs : List Char) : Option Int :=
  let (negative, cs) := takeSign (asciiDigits (Text.trim Text.isSpace cs))
  match (behindMark mark cs).mapM (baseDigit? base) with
  | none => none
  | some [] => none
  | some ds =>
    let n : Int := (ds.foldl (fun n d => base * n + d) 0 : Nat)
    some (if negative then -n else n)

/-- Whether a whole number has few enough digits to be written as a text. -/
def isWritable (n : Int) : Bool := n.natAbs < Nat.pow 10 maxDigits

end RestContract.Number
