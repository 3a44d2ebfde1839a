import RestContract.Text.Utf8

/-!
# Bytes in base 64

Four characters stand for three bytes, and equals signs fill up the last four. A reader
passes over every character that is none of them, and reads no further behind a complete
filling.
-/

namespace RestContract.Base64

/-- The value of a character that stands for six bits. -/
def sextet? (c : Char) : Option Nat :=
  if 'A' ≤ c && c ≤ 'Z' then some (c.toNat - 0x41)
  else if 'a' ≤ c && c ≤ 'z' then some (c.toNat - 0x47)
  else if '0' ≤ c && c ≤ '9' then some (c.toNat + 4)
  else if c = '+' then some 62
  else if c = '/' then some 63
  else none

/-- The six-bit values of a text up to its filling; `place` counts them, and `fill` the signs that
fill up. -/
def sextets (place fill : Nat) : List Char → List Nat × Bool
  | [] => ([], false)
  | c :: cs =>
    if c = '=' then
      if 2 ≤ place % 4 then
        if 4 ≤ place % 4 + (fill + 1) then ([], true) else sextets place (fill + 1) cs
      else sextets place fill cs
    else
      match sextet? c with
      | none => sextets place fill cs
      | some n =>
        let r := sextets (place + 1) 0 cs
        (n :: r.1, r.2)

/-- The bytes of six-bit values; what is left at the end are too few bits for a byte. -/
def join : List Nat → Bytes
  | a :: b :: c :: d :: rest =>
    UInt8.ofNat (a * 4 + b / 16) :: UInt8.ofNat (b % 16 * 16 + c / 4) ::
      UInt8.ofNat (c % 4 * 64 + d) ::
      join rest
  | [a, b, c] => [UInt8.ofNat (a * 4 + b / 16), UInt8.ofNat (b % 16 * 16 + c / 4)]
  | [a, b] => [UInt8.ofNat (a * 4 + b / 16)]
  | _ => []

/-- The bytes that a text stands for, unless its last four characters are not filled up. -/
def decode? (cs : List Char) : Option Bytes :=
  let (ns, filled) := sextets 0 0 cs
  if filled || ns.length % 4 = 0 then some (join ns) else none

end RestContract.Base64
