/-!
# UTF-8

Characters become one to four bytes. Reading is strict, or puts a replacement character
for every longest piece that could begin a character but does not complete one. Only
shortest forms of scalar values are read. A text may hold half of a surrogate pair that
an escape put there; a character for private use stands for it, and what is written of
such a text is up to the writer.
-/

namespace RestContract

/-- A sequence of bytes, as it travels in a body. -/
abbrev Bytes := List UInt8

namespace Utf8

/-- The bytes of one character. -/
def encodeChar (c : Char) : Bytes :=
  let n := c.toNat
  if n < 0x80 then [UInt8.ofNat n]
  else if n < 0x800 then [UInt8.ofNat (0xC0 + n / 64), UInt8.ofNat (0x80 + n % 64)]
  else if n < 0x10000 then
    [UInt8.ofNat (0xE0 + n / 4096), UInt8.ofNat (0x80 + n / 64 % 64), UInt8.ofNat (0x80 + n % 64)]
  else
    [UInt8.ofNat (0xF0 + n / 262144), UInt8.ofNat (0x80 + n / 4096 % 64),
      UInt8.ofNat (0x80 + n / 64 % 64), UInt8.ofNat (0x80 + n % 64)]

/-- The bytes of a list of characters. -/
def encodeChars (cs : List Char) : Bytes := cs.flatMap encodeChar

/-- The bytes of a text. -/
def encode (s : String) : Bytes := encodeChars s.toList

/-- A character that stands where bytes could not be read. -/
def replacement : Char := Char.ofNat 0xFFFD

/-- The first of the characters that stand for halves of surrogate pairs. -/
def firstHalf : Nat := 0x10E000

/-- The character that stands for half of a surrogate pair. -/
def ofHalf (unit : Nat) : Char := Char.ofNat (firstHalf + (unit - 0xD800))

/-- The half of a surrogate pair for which a character stands, if it stands for one. -/
def half? (c : Char) : Option Nat :=
  if firstHalf ≤ c.toNat && c.toNat < firstHalf + 0x800 then some (0xD800 + (c.toNat - firstHalf))
  else none

/-- Whether a text holds no half of a surrogate pair. -/
def isWhole (s : String) : Bool := s.toList.all fun c => (half? c).isNone

/-- How many bytes follow a leading byte, and the bounds of the first of them. -/
def followers (b : Nat) : Option (Nat × Nat × Nat) :=
  if b < 0xC2 then none
  else if b < 0xE0 then some (1, 0x80, 0xBF)
  else if b == 0xE0 then some (2, 0xA0, 0xBF)
  else if b == 0xED then some (2, 0x80, 0x9F)
  else if b < 0xF0 then some (2, 0x80, 0xBF)
  else if b == 0xF0 then some (3, 0x90, 0xBF)
  else if b < 0xF4 then some (3, 0x80, 0xBF)
  else if b == 0xF4 then some (3, 0x80, 0x8F)
  else none

/-- The bits that a leading byte contributes when `k` bytes follow it. -/
def leadBits (k b : Nat) : Nat :=
  if k == 1 then b - 0xC0 else if k == 2 then b - 0xE0 else b - 0xF0

/--
Reads the bytes that complete a character: how many were taken, and the character when
all of them were there.
-/
def complete : Nat → Nat → Nat → Nat → Bytes → Nat × Option Char
  | 0, _, _, acc, _ => (0, some (Char.ofNat acc))
  | _ + 1, _, _, _, [] => (0, none)
  | k + 1, lo, hi, acc, b :: bs =>
    let n := b.toNat
    if lo ≤ n && n ≤ hi then
      let r := complete k 0x80 0xBF (acc * 64 + (n - 0x80)) bs
      (r.1 + 1, r.2)
    else (0, none)

/-- The first character of some bytes, none when they begin no character, and how many bytes it
took. -/
def step (b : UInt8) (bs : Bytes) : Nat × Option Char :=
  let n := b.toNat
  if n < 0x80 then (1, some (Char.ofNat n))
  else match followers n with
    | none => (1, none)
    | some (k, lo, hi) =>
      let r := complete k lo hi (leadBits k n) bs
      (r.1 + 1, r.2)

/-- The characters read from bytes with `skip` bytes still to be passed, none for each unreadable
piece. -/
def pieces : Nat → Bytes → List (Option Char)
  | _, [] => []
  | skip + 1, _ :: bs => pieces skip bs
  | 0, b :: bs => (step b bs).2 :: pieces ((step b bs).1 - 1) bs

/-- The characters of bytes that are all readable. -/
def decodeChars? (bs : Bytes) : Option (List Char) := (pieces 0 bs).mapM id

/-- The text of bytes that are all readable. -/
def decode? (bs : Bytes) : Option String := (decodeChars? bs).map String.ofList

/-- The characters of bytes, with a replacement for every unreadable piece. -/
def decodeLossy (bs : Bytes) : List Char := (pieces 0 bs).map (·.getD replacement)

end Utf8

end RestContract
