import RestContract.Value.Basic
import RestContract.Number.Numeral
import RestContract.Text.Percent

/-!
# Reading JSON texts

The reader follows the JSON grammar and also knows the names of what is not finite. Where
each name of an object counts once, it has the place of its first appearance and the value
of its last one. A text that is not JSON is answered with the first fault and its place;
the place is kept as the number of characters from there to the end.
-/

namespace RestContract.Json

/-- What is wrong at a place of a text. -/
inductive Fault where
  /-- No value begins here. -/
  | value
  /-- No quoted name begins here. -/
  | name
  /-- No colon stands behind a name. -/
  | colon
  /-- No comma or closing bracket stands behind an item. -/
  | comma
  /-- The quoted text that begins here does not end. -/
  | unterminated
  /-- A control character stands in a quoted text. -/
  | control
  /-- A backslash begins no escape. -/
  | escape
  /-- An escaped code unit lacks digits. -/
  | codeUnit
  /-- Half of a surrogate pair stands alone. -/
  | surrogate
  /-- Something follows the value. -/
  | extra
  /-- The text begins with a byte order mark. -/
  | byteOrderMark
  /-- Values are nested too deeply. -/
  | depth
  /-- A whole number has too many digits. -/
  | digits (count : Nat)
  deriving DecidableEq, Repr

/-- A fault and how many characters follow its place. -/
structure ReadError where
  /-- What is wrong. -/
  fault : Fault
  /-- The number of characters from the place of the fault to the end. -/
  remaining : Nat
  deriving DecidableEq, Repr

/-- What a reader lets pass. -/
structure Limits where
  /-- The deepest nesting of lists and objects, if there is a limit. -/
  maxDepth : Option Nat
  /-- Whether half of a surrogate pair may stand alone. -/
  halfPairs : Bool
  /-- Whether the digits before the point of a number are limited like those of a whole number. -/
  countsDigits : Bool

/-- The limits for payloads. -/
def Limits.payload : Limits := ⟨some 200, false, true⟩

/-- The limits for texts that a person typed. -/
def Limits.typed : Limits := ⟨some 970, true, false⟩

/-- The blanks between the parts of a JSON text. -/
def isBlank (c : Char) : Bool := c = ' ' || c = '\t' || c = '\n' || c = '\r'

/-- The rest of a text behind its blanks. -/
def skip (cs : List Char) : List Char := cs.dropWhile isBlank

/-- The code unit of four hexadecimal digits. -/
def codeUnit? (a b c d : Char) : Option Nat := do
  let a ← Percent.hexValue? a
  let b ← Percent.hexValue? b
  let c ← Percent.hexValue? c
  let d ← Percent.hexValue? d
  pure (((a * 16 + b) * 16 + c) * 16 + d)

/-- The character of a short escape. -/
def shortEscape? (c : Char) : Option Char :=
  if c = '"' || c = '\\' || c = '/' then some c
  else if c = 'b' then some (Char.ofNat 8)
  else if c = 'f' then some (Char.ofNat 12)
  else if c = 'n' then some '\n'
  else if c = 'r' then some '\r'
  else if c = 't' then some '\t'
  else none

/-- Whether a code unit is the first half of a pair. -/
def isHighHalf (n : Nat) : Bool := 0xD800 ≤ n && n ≤ 0xDBFF

/-- Whether a code unit is the second half of a pair. -/
def isLowHalf (n : Nat) : Bool := 0xDC00 ≤ n && n ≤ 0xDFFF

/-- The character of an escaped code unit that is no complete pair. -/
def loneUnit (limits : Limits) (n remaining : Nat) : Except ReadError Char :=
  if isHighHalf n || isLowHalf n then
    if limits.halfPairs then .ok (Utf8.ofHalf n) else .error ⟨.surrogate, remaining⟩
  else .ok (Char.ofNat n)

/-- Puts a character before what was read behind it. -/
def consChar (c : Char) (r : Except ReadError (List Char × List Char)) :
    Except ReadError (List Char × List Char) :=
  r.map fun p => (c :: p.1, p.2)

/--
Reads a quoted text behind its opening quote, and gives the text and what follows its closing quote;
`start` is the number of characters from the opening quote to the end. An escaped code unit is
complete only when something follows it.
-/
def quotedBody (limits : Limits) (start : Nat) :
    List Char → Except ReadError (List Char × List Char)
  | [] => .error ⟨.unterminated, start⟩
  | '"' :: rest => .ok ([], rest)
  | ['\\'] => .error ⟨.unterminated, start⟩
  | '\\' :: 'u' :: a :: b :: c :: d :: '\\' :: 'u' :: e :: f :: g :: h :: rest =>
    match codeUnit? a b c d, (if rest.isEmpty then none else codeUnit? e f g h) with
    | none, _ => .error ⟨.codeUnit, rest.length + 11⟩
    | some m, some n =>
      if isHighHalf m && isLowHalf n then
        consChar (Char.ofNat (0x10000 + (m - 0xD800) * 0x400 + (n - 0xDC00)))
          (quotedBody limits start rest)
      else do
        let c ← loneUnit limits m (rest.length + 12)
        consChar c (quotedBody limits start ('\\' :: 'u' :: e :: f :: g :: h :: rest))
    | some m, none => do
      let c ← loneUnit limits m (rest.length + 12)
      consChar c (quotedBody limits start ('\\' :: 'u' :: e :: f :: g :: h :: rest))
  | '\\' :: 'u' :: a :: b :: c :: d :: rest =>
    match (if rest.isEmpty then none else codeUnit? a b c d) with
    | none => .error ⟨.codeUnit, rest.length + 5⟩
    | some m => do
      let c ← loneUnit limits m (rest.length + 6)
      consChar c (quotedBody limits start rest)
  | '\\' :: 'u' :: rest => .error ⟨.codeUnit, rest.length + 1⟩
  | '\\' :: c :: rest =>
    match shortEscape? c with
    | some c => consChar c (quotedBody limits start rest)
    | none => .error ⟨.escape, rest.length + 2⟩
  | c :: rest =>
    if c.toNat < 0x20 then .error ⟨.control, rest.length + 1⟩
    else consChar c (quotedBody limits start rest)

/-- The digits of a fraction behind a whole number, when there are any. -/
def takePlaces : List Char → Option (List Char) × List Char
  | '.' :: c :: rest =>
    if Number.isDigit c then
      (some ((c :: rest).takeWhile Number.isDigit), (c :: rest).dropWhile Number.isDigit)
    else (none, '.' :: c :: rest)
  | cs => (none, cs)

/-- The exponent behind a number, when there is one. -/
def takeExponent (cs : List Char) : Option Int × List Char :=
  match cs with
  | [] => (none, [])
  | mark :: rest =>
    if mark = 'e' || mark = 'E' then
      let (negative, digits) := Number.takeSign rest
      let ds := digits.takeWhile Number.isDigit
      if ds.isEmpty then (none, cs)
      else
        let n : Int := Number.digitsValue 0 ds
        (some (if negative then -n else n), digits.dropWhile Number.isDigit)
    else (none, cs)

/-- Reads a number, none when no number begins here. -/
def number? (limits : Limits) (cs : List Char) : Option (Except ReadError (Value × List Char)) :=
  let negative := cs.head? = some '-'
  let digits := if negative then cs.drop 1 else cs
  let whole :=
    if digits.head? = some '0' then ['0'] else digits.takeWhile Number.isDigit
  if whole.isEmpty then none
  else
    let (places, rest) := takePlaces (digits.drop whole.length)
    let (exponent, rest) := takeExponent rest
    match places, exponent with
    | none, none =>
      if whole.length > Number.maxDigits then some (.error ⟨.digits whole.length, cs.length⟩)
      else some (.ok (.int (Number.WholeNumeral.value ⟨negative, whole⟩), rest))
    | places, exponent =>
      if limits.countsDigits && whole.length > Number.maxDigits then
        some (.error ⟨.digits whole.length, cs.length⟩)
      else
        let numeral : Number.DecimalNumeral := ⟨negative, whole, places.getD [], exponent.getD 0⟩
        some (.ok (.float numeral.value, rest))

/-- The words that stand for values. -/
def words : List (List Char × Value) :=
  [("null".toList, .null), ("true".toList, .bool true), ("false".toList, .bool false),
   ("NaN".toList, .float Number.notANumber), ("Infinity".toList, .float Number.infinity),
   ("-Infinity".toList, .float (-Number.infinity))]

/-- The value of the word that begins a text, and what follows it. -/
def word? (cs : List Char) : Option (Value × List Char) :=
  words.findSome? fun w => (Text.afterPrefix? w.1 cs).map fun rest => (w.2, rest)

/-- Whether a nesting depth is allowed. -/
def Limits.allows (limits : Limits) (depth : Nat) : Bool :=
  limits.maxDepth.all fun most => decide (depth ≤ most)

mutual

/-- Reads a value that begins at once, with at most `fuel` steps. -/
def value (limits : Limits) : Nat → Nat → List Char → Except ReadError (Value × List Char)
  | 0, _, cs => .error ⟨.value, cs.length⟩
  | fuel + 1, depth, cs =>
    match cs with
    | '"' :: rest =>
      (quotedBody limits cs.length rest).map fun r => (.text (String.ofList r.1), r.2)
    | '[' :: rest =>
      if !limits.allows (depth + 1) then .error ⟨.depth, cs.length⟩
      else match skip rest with
        | ']' :: rest => .ok (.list [], rest)
        | rest => (items limits fuel (depth + 1) rest).map fun r => (.list r.1, r.2)
    | '\x7b' :: rest =>
      if !limits.allows (depth + 1) then .error ⟨.depth, cs.length⟩
      else match skip rest with
        | '\x7d' :: rest => .ok (.map [], rest)
        | rest => (members limits fuel (depth + 1) rest).map fun r => (.map r.1, r.2)
    | cs =>
      match word? cs with
      | some r => .ok r
      | none => (number? limits cs).getD (.error ⟨.value, cs.length⟩)

/-- Reads the items of a list up to its closing bracket. -/
def items (limits : Limits) : Nat → Nat → List Char → Except ReadError (List Value × List Char)
  | 0, _, cs => .error ⟨.value, cs.length⟩
  | fuel + 1, depth, cs => do
    let (v, rest) ← value limits fuel depth cs
    match skip rest with
    | ']' :: rest => pure ([v], rest)
    | ',' :: rest =>
      let (vs, rest) ← items limits fuel depth (skip rest)
      pure (v :: vs, rest)
    | rest => .error ⟨.comma, rest.length⟩

/-- Reads the members of an object up to its closing bracket. -/
def members (limits : Limits) :
    Nat → Nat → List Char → Except ReadError (List (Value × Value) × List Char)
  | 0, _, cs => .error ⟨.value, cs.length⟩
  | fuel + 1, depth, cs =>
    match cs with
    | '"' :: rest => do
      let (key, rest) ← quotedBody limits cs.length rest
      match skip rest with
      | ':' :: rest =>
        let (v, rest) ← value limits fuel depth (skip rest)
        let entry : Value × Value := (.text (String.ofList key), v)
        match skip rest with
        | '\x7d' :: rest => pure ([entry], rest)
        | ',' :: rest =>
          let (entries, rest) ← members limits fuel depth (skip rest)
          pure (entry :: entries, rest)
        | rest => .error ⟨.comma, rest.length⟩
      | rest => .error ⟨.colon, rest.length⟩
    | cs => .error ⟨.name, cs.length⟩

end

/-- The value of a text that is exactly one JSON value with blanks around it; names may be repeated
in it. -/
def readEntries (limits : Limits) (s : String) : Except ReadError Value :=
  let cs := s.toList
  if cs.head? = some (Char.ofNat 0xFEFF) then .error ⟨.byteOrderMark, cs.length⟩
  else do
    let start := skip cs
    let (v, rest) ← value limits (2 * cs.length + 2) 0 start
    match skip rest with
    | [] => pure v
    | rest => .error ⟨.extra, rest.length⟩

/-- The value of a text that is exactly one JSON value with blanks around it. -/
def read (limits : Limits) (s : String) : Except ReadError Value :=
  (readEntries limits s).map Value.settled

/-- What is wrong, in words. -/
def Fault.message : Fault → String
  | .value => "Expecting value"
  | .name => "Expecting property name enclosed in double quotes"
  | .colon => "Expecting ':' delimiter"
  | .comma => "Expecting ',' delimiter"
  | .unterminated => "Unterminated string starting at"
  | .control => "Invalid control character at"
  | .escape => "Invalid \\escape"
  | .codeUnit => "Invalid \\uXXXX escape"
  | .surrogate => "Invalid \\uXXXX escape"
  | .extra => "Extra data"
  | .byteOrderMark => "Unexpected UTF-8 BOM (decode using utf-8-sig)"
  | .depth => "Expecting value"
  | .digits _ => "Expecting value"

/-- The message of an error in a text: what is wrong, and its line, column and place. -/
def ReadError.message (s : String) (e : ReadError) : String :=
  let cs := s.toList
  let before := cs.take (cs.length - e.remaining)
  let line := (before.filter (· = '\n')).length + 1
  let column := (before.reverse.takeWhile (· ≠ '\n')).length + 1
  e.fault.message ++ ": line " ++ toString line ++ " column " ++ toString column ++
    " (char " ++ toString before.length ++ ")"

end RestContract.Json
