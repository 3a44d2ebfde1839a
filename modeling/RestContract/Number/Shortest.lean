/-!
# The fewest digits that read back

A finite binary number is `m · 2^q`. Every real between the halfway points to its two
neighbours is read as that number, the halfway points themselves when `m` is even. On
each decimal grid only the two grid points next to the number can lie in between, so
the grids are tried from the coarsest on: the first one with a hit has the fewest
digits, and of two hits the nearer one is taken, or the even one of two equally near.
-/

namespace RestContract.Number

/-- A decimal number `digits · 10^exponent`. -/
structure Decimal where
  /-- The digits, read as one natural number. -/
  digits : Nat
  /-- The power of ten that the last digit counts. -/
  exponent : Int
  deriving DecidableEq, Repr

/-- A binary number `mantissa · 2^exponent`. -/
structure Binary where
  /-- The digits, read as one natural number. -/
  mantissa : Nat
  /-- The power of two that the last digit counts. -/
  exponent : Int
  deriving DecidableEq, Repr

/-- The absolute value of a finite double. -/
def Binary.ofBits (bits : Nat) : Binary :=
  let fraction : Nat := bits % Nat.pow 2 52
  let level : Nat := bits / Nat.pow 2 52 % Nat.pow 2 11
  if level = 0 then ⟨fraction, -1074⟩ else ⟨Nat.pow 2 52 + fraction, (level : Int) - 1075⟩

/-- The order of `a · 10^e` and `b · 2^q`. -/
def compareScaled (a : Nat) (e : Int) (b : Nat) (q : Int) : Ordering :=
  compare (a * Nat.pow 10 e.toNat * Nat.pow 2 (-q).toNat)
    (b * Nat.pow 2 q.toNat * Nat.pow 10 (-e).toNat)

/-- Whether a decimal is read as the given binary number. -/
def readsAs (b : Binary) (d : Decimal) : Bool :=
  let low :=
    if b.mantissa = Nat.pow 2 52 && b.exponent > -1074 then 4 * b.mantissa - 1
    else 4 * b.mantissa - 2
  let closed := b.mantissa % 2 = 0
  let fromLow := compareScaled d.digits d.exponent low (b.exponent - 2)
  let fromHigh := compareScaled d.digits d.exponent (4 * b.mantissa + 2) (b.exponent - 2)
  (fromLow == .gt || (closed && fromLow == .eq)) && (fromHigh == .lt || (closed && fromHigh == .eq))

/-- The greatest grid point with the given exponent that is not above the number. -/
def gridBelow (b : Binary) (e : Int) : Nat :=
  b.mantissa * Nat.pow 2 b.exponent.toNat * Nat.pow 10 (-e).toNat /
    (Nat.pow 2 (-b.exponent).toNat * Nat.pow 10 e.toNat)

/-- The grid point with the given exponent that is read as the number: the nearer one of two, or the
even one. -/
def hit? (b : Binary) (e : Int) : Option Decimal :=
  let below := gridBelow b e
  match readsAs b ⟨below, e⟩, readsAs b ⟨below + 1, e⟩ with
  | true, true =>
    match compareScaled (2 * below + 1) e (2 * b.mantissa) b.exponent with
    | .lt => some ⟨below + 1, e⟩
    | .eq => some ⟨below + below % 2, e⟩
    | .gt => some ⟨below, e⟩
  | true, false => some ⟨below, e⟩
  | false, true => some ⟨below + 1, e⟩
  | false, false => none

/-- The first hit on the grids from exponent `e` downwards. -/
def firstHit (b : Binary) : Nat → Int → Decimal
  | 0, e => ⟨gridBelow b e, e⟩
  | n + 1, e => (hit? b e).getD (firstHit b n (e - 1))

/-- The decimal with the fewest digits that is read as a positive binary number. -/
def shortest (b : Binary) : Decimal :=
  let size := (b.mantissa.log2 : Int) + b.exponent
  firstHit b 22 (size * 1233 / 4096 + 2)

end RestContract.Number
