/-!
# Terminal codes

A terminal code is an escape character, an opening bracket, digits and separators, marks,
and a final character, which is a letter or one of the characters beside the letters. A
text that is not shown on a terminal is shown without them.
-/

namespace RestContract.Text

/-- Whether a character is a digit or a separator of a terminal code. -/
def isCodeNumber (c : Char) : Bool := '0' ≤ c && c ≤ '?'

/-- Whether a character is a mark in a terminal code. -/
def isCodeMark (c : Char) : Bool := ' ' ≤ c && c ≤ '/'

/-- Whether a character ends a terminal code. -/
def isCodeEnd (c : Char) : Bool := '@' ≤ c && c ≤ '~'

/-- The length of the terminal code at the beginning of a text, zero when there is none. -/
def codeLength : List Char → Nat
  | c :: '[' :: rest =>
    match (rest.dropWhile isCodeNumber).dropWhile isCodeMark with
    | last :: after =>
      if c.toNat = 0x1B && isCodeEnd last then rest.length - after.length + 2 else 0
    | [] => 0
  | _ => 0

/-- A text without its first characters and without terminal codes. -/
def dropCodes : Nat → List Char → List Char
  | _, [] => []
  | skipped + 1, _ :: cs => dropCodes skipped cs
  | 0, c :: cs =>
    match codeLength (c :: cs) with
    | 0 => c :: dropCodes 0 cs
    | n + 1 => dropCodes n cs

/-- A text without terminal codes. -/
def withoutCodes (s : String) : String := String.ofList (dropCodes 0 s.toList)

end RestContract.Text
