import RestContract.Number.Numeral

/-!
# Lenient numerals and truth values

The texts that stand for numbers and truth values where a value of another kind is
expected. A whole number may have blanks around it, a plus, zeros in front, underscores
between its digits and a point with zeros behind it; a floating-point number may have
blanks around it or underscores inside it, but not both.
-/

namespace RestContract.Number

/-- Removes single underscores that stand inside a text. -/
def withoutUnderscores? (cs : List Char) : Option (List Char) :=
  if cs.head? = some '_' || cs.getLast? = some '_' then none
  else if (cs.zip (cs.drop 1)).any fun p => p.1 = '_' && p.2 = '_' then none
  else some (cs.filter (· ≠ '_'))

/-- Whether a character is a zero or separates digits. -/
def isZeroPart (c : Char) : Bool := c = '0' || c = '_'

/-- A numeral without its leading zeros and what separates them; the last one stays before a point
and at the end. -/
def withoutZeros? : List Char → Option (List Char)
  | [] => none
  | '0' :: cs =>
    match cs.dropWhile isZeroPart with
    | [] => some (('0' :: cs).drop cs.length)
    | '.' :: places => some (('0' :: cs.takeWhile isZeroPart).getLast?.toList ++ '.' :: places)
    | c :: rest => if isDigit c || c = '-' then some (c :: rest) else none
  | c :: cs => if c = '-' || isDigit c then some (c :: cs) else none

/-- A numeral without a point and the zeros behind it, of which there has to be one. -/
def withoutPlaces? (cs : List Char) : Option (List Char) :=
  match Text.cut '.' cs with
  | (whole, none) => some whole
  | (whole, some places) => if !places.isEmpty && places.all (· = '0') then some whole else none

/-- The value of a whole numeral with at most a minus and no needless zero. -/
def plainWhole? (cs : List Char) : Option Int :=
  match WholeNumeral.ofText? cs with
  | none => none
  | some w =>
    if cs.head? = some '+' || (w.digits.head? = some '0' && w.digits ≠ ['0']) ||
        w.digits.length > maxDigits then none
    else some w.value

/-- The whole number that a text stands for. -/
def wholeOfText? (s : String) : Option Int := do
  let cs := Text.trim Text.isSpace s.toList
  let positive := cs.head? = some '+'
  let cs := if positive then cs.drop 1 else cs
  if positive && cs.head? = some '-' then none
  else plainWhole? (← withoutUnderscores? (← withoutPlaces? (← withoutZeros? cs)))

/-- The floating-point number that a text stands for. -/
def floatOfLooseText? (s : String) : Option Float :=
  match plainFloat? (Text.trim Text.isSpace s.toList) with
  | some x => some x
  | none => (withoutUnderscores? s.toList).bind plainFloat?

/-- The truth value that a text stands for. -/
def truthOfText? (s : String) : Option Bool :=
  let s := String.ofList (lowerAscii s.toList)
  if ["1", "on", "t", "true", "y", "yes"].contains s then some true
  else if ["0", "off", "f", "false", "n", "no"].contains s then some false
  else none

end RestContract.Number
