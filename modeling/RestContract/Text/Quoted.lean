import RestContract.Text.Case
import RestContract.Text.PrintableTable
import RestContract.Text.Utf8

/-!
# Quoted texts in messages

A quoted text stands between single quotes, or between double quotes when it holds a
single quote and no double one. The chosen quote and the backslash are escaped, line
ends and tabs have short escapes, and characters without a visible form are written as
their code point in two, four or eight digits, as halves of surrogate pairs are.
-/

namespace RestContract.Text

/-- One hexadecimal digit in lower case. -/
def hexDigit (n : Nat) : Char :=
  if n < 10 then Char.ofNat (0x30 + n) else Char.ofNat (0x57 + n)

/-- The last `width` hexadecimal digits of a number. -/
def hexPadded : Nat → Nat → List Char
  | 0, _ => []
  | width + 1, n => hexPadded width (n / 16) ++ [hexDigit (n % 16)]

/-- Whether a character is shown as itself in a quoted text. -/
def isVisible (c : Char) : Bool := !inRanges hiddenRanges c.toNat

/-- A text in which the halves of surrogate pairs are written as escapes. -/
def escapeHalves (s : String) : String :=
  String.ofList (s.toList.flatMap fun c =>
    match Utf8.half? c with
    | some unit => '\\' :: 'u' :: hexPadded 4 unit
    | none => [c])

/-- The code point of a character, or the half of a surrogate pair for which it stands. -/
def codeOf (c : Char) : Nat := (Utf8.half? c).getD c.toNat

/-- One character of a quoted text under the given quote. -/
def quoteChar (mark c : Char) : List Char :=
  if c = mark || c = '\\' then ['\\', c]
  else if c = '\n' then ['\\', 'n']
  else if c = '\r' then ['\\', 'r']
  else if c = '\t' then ['\\', 't']
  else if isVisible c then [c]
  else if c.toNat < 0x100 then '\\' :: 'x' :: hexPadded 2 c.toNat
  else if codeOf c < 0x10000 then '\\' :: 'u' :: hexPadded 4 (codeOf c)
  else '\\' :: 'U' :: hexPadded 8 c.toNat

/-- The quote that a text takes. -/
def quoteMark (cs : List Char) : Char :=
  if cs.contains '\'' && !cs.contains '"' then '"' else '\''

/-- A text as it is quoted in messages. -/
def quoted (s : String) : String :=
  let cs := s.toList
  let mark := quoteMark cs
  String.ofList (mark :: cs.flatMap (quoteChar mark) ++ [mark])

/-- One byte of quoted bytes under the given quote. -/
def quoteByte (mark : Char) (b : UInt8) : List Char :=
  if b.toNat < 0x7F then quoteChar mark (Char.ofNat b.toNat) else '\\' :: 'x' :: hexPadded 2 b.toNat

/-- Bytes as they are quoted in messages: like a text, behind a letter. -/
def quotedBytes (bs : List UInt8) : String :=
  let mark := quoteMark (bs.map fun b => Char.ofNat b.toNat)
  String.ofList ('b' :: mark :: bs.flatMap (quoteByte mark) ++ [mark])

end RestContract.Text
