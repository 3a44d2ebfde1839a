/-!
# Rounding to floating-point numbers

A quotient of two natural numbers is rounded to the nearest double, of two nearest ones
to the one whose significand is even. All of it is done on natural numbers; only the bits
that are found become a floating-point number. What lies beyond the largest double is
infinite.
-/

namespace RestContract.Number

/-- Positive infinity. -/
def infinity : Float := 1.0 / 0.0

/-- What is no number. -/
def notANumber : Float := 0.0 / 0.0

/-- The whole number nearest to a quotient, the even one of two nearest ones. -/
def roundDiv (n d : Nat) : Nat :=
  let q := n / d
  let r := n % d
  if 2 * r < d then q else if d < 2 * r then q + 1 else q + q % 2

/-- A quotient as a quotient of multiples of a power of two. -/
def scaled (n d : Nat) (e : Int) : Nat × Nat :=
  if e < 0 then (n * Nat.pow 2 (-e).toNat, d) else (n, d * Nat.pow 2 e.toNat)

/-- The exponent of the last of 53 binary places of a quotient, no less than that of the smallest
double. -/
def lastPlace (n d : Nat) : Int :=
  let e : Int := n.log2 - d.log2 - 52
  let (a, b) := scaled n d e
  max (if a < b * Nat.pow 2 52 then e - 1 else e) (-1074)

/-- The double nearest to a quotient. -/
def ofQuotient (n d : Nat) : Float :=
  if n = 0 then 0.0
  else
    let e := lastPlace n d
    let (a, b) := scaled n d e
    let bits := (e + 1074).toNat * Nat.pow 2 52 + roundDiv a b
    if 2047 * Nat.pow 2 52 ≤ bits then infinity else Float.ofBits (UInt64.ofNat bits)

/-- The double nearest to a whole number. -/
def ofWhole (n : Int) : Float :=
  let x := ofQuotient n.natAbs 1
  if n < 0 then -x else x

/-- The whole number that a floating-point number is, if it is one. -/
def wholeOfFloat? (x : Float) : Option Int :=
  if x.isNaN || x.isInf || x.floor != x then none
  else
    let b := x.toBits.toNat % Nat.pow 2 63
    let fraction := b % Nat.pow 2 52
    let level := b / Nat.pow 2 52
    let n : Int :=
      if level < 1023 then 0
      else if level < 1075 then ((Nat.pow 2 52 + fraction) / Nat.pow 2 (1075 - level) : Nat)
      else ((Nat.pow 2 52 + fraction) * Nat.pow 2 (level - 1075) : Nat)
    some (if x < 0.0 then -n else n)

end RestContract.Number
