import RestContract.Number.Shortest
import RestContract.Text.Blank

/-!
# Written forms of floating-point numbers

Numbers are written with their fewest digits. A style says between which powers of ten
the digits are placed around a point, and how an exponent, a missing number and an
infinity are written otherwise.
-/

namespace RestContract.Number

/-- How floating-point numbers are written. -/
structure Style where
  /-- The least power of ten of a leading digit that is still written without an exponent. -/
  positionalFrom : Int
  /-- The least power of ten of a leading digit that is written with an exponent again. -/
  positionalBelow : Int
  /-- The least number of digits in an exponent. -/
  exponentWidth : Nat
  /-- The text of a number that is none. -/
  notANumber : String
  /-- The text of positive infinity. -/
  infinite : String
  /-- The text of negative infinity. -/
  negativeInfinite : String

/-- In texts for people and for the wire an exponent has two digits and begins below 0.0001. -/
def Style.display : Style := ⟨-4, 16, 2, "nan", "inf", "-inf"⟩

/-- In payloads an exponent is not filled up and begins below 0.00001; what is no number is null. -/
def Style.payload : Style := ⟨-5, 16, 1, "null", "null", "null"⟩

/-- Digits around a point, the leading one counting the given power of ten. -/
def positional (digits : List Char) (lead : Int) : List Char :=
  if lead < 0 then '0' :: '.' :: (List.replicate (-lead - 1).toNat '0' ++ digits)
  else
    let whole := lead.toNat + 1
    let filled := digits ++ List.replicate (whole - digits.length) '0'
    let places := filled.drop whole
    filled.take whole ++ '.' :: (if places.isEmpty then ['0'] else places)

/-- Digits with an exponent. -/
def scientific (style : Style) (digits : List Char) (lead : Int) : List Char :=
  let places := digits.drop 1
  digits.take 1 ++ (if places.isEmpty then [] else '.' :: places) ++
    'e' :: (if lead < 0 then '-' else '+') ::
      (Text.zeroPadded style.exponentWidth lead.natAbs).toList

/-- The text of a positive decimal. -/
def Style.decimal (style : Style) (d : Decimal) : List Char :=
  let digits := (toString d.digits).toList
  let lead := d.exponent + digits.length - 1
  if style.positionalFrom ≤ lead && lead < style.positionalBelow then positional digits lead
  else scientific style digits lead

/-- The text of a floating-point number. -/
def Style.write (style : Style) (x : Float) : String :=
  let bits := x.toBits.toNat
  let negative := bits / Nat.pow 2 63 = 1
  let size := bits % Nat.pow 2 63
  if size > 0x7FF * Nat.pow 2 52 then style.notANumber
  else if size = 0x7FF * Nat.pow 2 52 then
    (if negative then style.negativeInfinite else style.infinite)
  else
    let body := if size = 0 then "0.0".toList else style.decimal (shortest (Binary.ofBits size))
    String.ofList (if negative then '-' :: body else body)

end RestContract.Number
