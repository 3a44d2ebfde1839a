import RestContract.Text.Quoted
import RestContract.Text.Utf8

/-!
# Percent coding

A byte outside a safe set is written as a percent sign and two upper-case hexadecimal
digits. Reading turns every complete escape back into its byte and leaves an incomplete
one as it stands; the bytes are then read as UTF-8 with replacements. Form coding also
writes a space as a plus sign.
-/

namespace RestContract.Percent

/-- Letters, digits and the four marks that never need an escape. -/
def isUnreserved (c : Char) : Bool :=
  c.isAlphanum || c == '_' || c == '.' || c == '-' || c == '~'

/-- One hexadecimal digit in upper case. -/
def hexUpper (n : Nat) : Char :=
  if n < 10 then Char.ofNat (0x30 + n) else Char.ofNat (0x37 + n)

/-- The value of a hexadecimal digit of either case. -/
def hexValue? (c : Char) : Option Nat :=
  let n := c.toNat
  if 0x30 ≤ n && n ≤ 0x39 then some (n - 0x30)
  else if 0x41 ≤ n && n ≤ 0x46 then some (n - 0x37)
  else if 0x61 ≤ n && n ≤ 0x66 then some (n - 0x57)
  else none

/-- The escape of one byte. -/
def escapeByte (b : UInt8) : List Char :=
  ['%', hexUpper (b.toNat / 16), hexUpper (b.toNat % 16)]

/-- One character, escaped unless it is safe. -/
def escapeChar (safe : Char → Bool) (c : Char) : List Char :=
  if safe c then [c] else (Utf8.encodeChar c).flatMap escapeByte

/-- A text in which only safe characters stand for themselves. -/
def escape (safe : Char → Bool) (cs : List Char) : List Char := cs.flatMap (escapeChar safe)

/-- The bytes that a percent-coded text stands for. -/
def bytes : List Char → Bytes
  | [] => []
  | '%' :: a :: b :: cs =>
    match hexValue? a, hexValue? b with
    | some x, some y => UInt8.ofNat (16 * x + y) :: bytes cs
    | _, _ => 0x25 :: bytes (a :: b :: cs)
  | c :: cs => Utf8.encodeChar c ++ bytes cs

/-- The text that a percent-coded text stands for. -/
def unescape (cs : List Char) : List Char := Utf8.decodeLossy (bytes cs)

/-- One character of a form field: a space becomes a plus sign. -/
def formChar (c : Char) : List Char :=
  if c = ' ' then ['+'] else escapeChar isUnreserved c

/-- A name or value in a form-coded query. -/
def formField (cs : List Char) : List Char := cs.flatMap formChar

/-- Bytes that are a name or value in a form-coded query. -/
def formBytes (bs : Bytes) : List Char :=
  bs.flatMap fun b => if b.toNat < 0x80 then formChar (Char.ofNat b.toNat) else escapeByte b

/-- Coded names and values of a query, joined. -/
def joinPairs (pairs : List (List Char × List Char)) : String :=
  "&".intercalate (pairs.map fun p => String.ofList (p.1 ++ '=' :: p.2))

/-- The pairs of a query, form-coded and joined. -/
def formPairs (pairs : List (String × String)) : String :=
  joinPairs (pairs.map fun p => (formField p.1.toList, formField p.2.toList))

end RestContract.Percent
