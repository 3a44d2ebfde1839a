import RestContract.Yaml.Token
import RestContract.Text.Percent

/-!
# Scalars in YAML texts

Each function reads the scalar that begins a text and gives what follows it. A line end
inside a scalar becomes a space, and empty lines between two lines become line ends; in a
literal block every line end stays. Fuel bounds the number of lines or pieces.
-/

namespace RestContract.Yaml

/-- What a line end and the empty lines behind it become. -/
def foldedBreaks (first : Char) (more : List Char) : List Char :=
  (if first ≠ '\n' then [first] else if more.isEmpty then [' '] else []) ++ more

/-- The spaces and line ends that begin a text, and whether a document mark follows one of the line
ends. -/
def takeEmptyLines : Nat → List Char → Option (List Char × Nat × List Char)
  | 0, _ => none
  | fuel + 1, cs =>
    let spaces := (cs.takeWhile (· = ' ')).length
    let rest := cs.drop spaces
    match takeBreak rest with
    | none => some ([], spaces, rest)
    | some (b, rest) =>
      if atDocumentMark rest then none
      else (takeEmptyLines fuel rest).map fun r => (b :: r.1, r.2)

/-- What follows a piece of a plain scalar. -/
inductive PlainGap where
  /-- The scalar ends here; behind a line end the rest begins a line. -/
  | stop (crossed : Bool) (rest : List Char)
  /-- Spaces or line ends, as they count in the scalar; on a new line with its column. -/
  | gap (text : List Char) (column : Option Nat) (rest : List Char)

/-- Reads what follows a piece of a plain scalar. -/
def plainGap (cs : List Char) : PlainGap :=
  let spaces := cs.takeWhile (· = ' ')
  let rest := cs.dropWhile (· = ' ')
  match takeBreak rest with
  | none => if spaces.isEmpty then .stop false rest else .gap spaces none rest
  | some (b, rest) =>
    if atDocumentMark rest then .stop true rest
    else match takeEmptyLines (rest.length + 1) rest with
      | none => .stop true rest
      | some (more, column, rest) => .gap (foldedBreaks b more) (some column) rest

/-- Whether a piece of a plain scalar ends here. -/
def endsPlain (flow : Bool) (cs : List Char) : Bool :=
  match cs with
  | [] => true
  | c :: rest =>
    c = ' ' || c = '\t' || isBreak c ||
      (c = ':' && (atBlank rest || (flow && rest.head?.any (",[]\x7b\x7d".toList.contains ·)))) ||
      (flow && ",?[]\x7b\x7d".toList.contains c)

/-- A piece of a plain scalar, without spaces. -/
def takePlainPiece (flow : Bool) : List Char → List Char × List Char
  | [] => ([], [])
  | c :: rest =>
    if endsPlain flow (c :: rest) then ([], c :: rest)
    else
      let r := takePlainPiece flow rest
      (c :: r.1, r.2)

/-- A plain scalar: its text, whether a line end was crossed last, and what follows. -/
structure PlainScalar where
  /-- The text. -/
  text : List Char
  /-- Whether the rest is on a later line than the last piece. -/
  crossed : Bool
  /-- What follows. -/
  rest : List Char

/-- Reads a plain scalar whose later lines begin at a least column,
if they may begin anywhere else. -/
def plainFrom (flow : Bool) (least : Int) :
    Nat → List Char → List Char → Bool → List Char → PlainScalar
  | 0, text, _, crossed, cs => ⟨text, crossed, cs⟩
  | fuel + 1, text, gap, crossed, cs =>
    if cs.head? = some '#' then ⟨text, crossed, cs⟩
    else
      let (piece, rest) := takePlainPiece flow cs
      if piece.isEmpty then ⟨text, crossed, cs⟩
      else
        let text := text ++ gap ++ piece
        match plainGap rest with
        | .stop crossed rest => ⟨text, crossed, rest⟩
        | .gap gap column rest =>
          if rest.head? = some '#' || (!flow && column.any fun n => (n : Int) < least) then
            ⟨text, column.isSome, rest⟩
          else plainFrom flow least fuel text gap column.isSome rest

/-- Empty lines inside quotes, and blanks before the next piece; a document mark may not stand
there. -/
def quotedBreaks : Nat → List Char → Except Fault (List Char × List Char)
  | 0, _ => .error .malformed
  | fuel + 1, cs =>
    if atDocumentMark cs then .error .malformed
    else
      let rest := cs.dropWhile fun c => c = ' ' || c = '\t'
      match takeBreak rest with
      | none => .ok ([], rest)
      | some (b, rest) => (quotedBreaks fuel rest).map fun r => (b :: r.1, r.2)

/-- Blanks or line ends inside quotes, as they count in the scalar. -/
def quotedGap (cs : List Char) : Except Fault (List Char × List Char) :=
  let blanks := cs.takeWhile fun c => c = ' ' || c = '\t'
  let rest := cs.drop blanks.length
  match rest with
  | [] => .error .malformed
  | rest =>
    match takeBreak rest with
    | none => .ok (blanks, rest)
    | some (b, rest) =>
      (quotedBreaks (rest.length + 1) rest).map fun r => (foldedBreaks b r.1, r.2)

/-- The escapes of one character. -/
def shortEscapes : List (Char × Nat) :=
  [('0', 0), ('a', 7), ('b', 8), ('t', 9), ('\t', 9), ('n', 10), ('v', 11), ('f', 12), ('r', 13),
   ('e', 27), (' ', 32), ('"', 34), ('\\', 92), ('/', 47), ('N', 0x85), ('_', 0xA0), ('L', 0x2028),
   ('P', 0x2029)]

/-- The value of a given number of hexadecimal digits. -/
def hexCode? : Nat → Nat → List Char → Option (Nat × List Char)
  | 0, acc, cs => some (acc, cs)
  | _ + 1, _, [] => none
  | n + 1, acc, c :: cs =>
    match Percent.hexValue? c with
    | none => none
    | some d => hexCode? n (acc * 16 + d) cs

/-- The number of digits of a long escape. -/
def escapeDigits? (c : Char) : Option Nat :=
  if c = 'x' then some 2 else if c = 'u' then some 4 else if c = 'U' then some 8 else none

/-- The character of a code. -/
def charOfCode (n : Nat) : Except Fault Char :=
  if 0x7FFFFFFF < n then .error .range
  else if 0x10FFFF < n then .error .value
  else if 0xD800 ≤ n && n ≤ 0xDFFF then .ok (Utf8.ofHalf n)
  else .ok (Char.ofNat n)

/-- Reads an escape behind its backslash. -/
def escape (cs : List Char) : Except Fault (List Char × List Char) :=
  match cs with
  | [] => .error .malformed
  | c :: rest =>
    match shortEscapes.lookup c, escapeDigits? c, takeBreak (c :: rest) with
    | some n, _, _ => .ok ([Char.ofNat n], rest)
    | none, some n, _ =>
      match hexCode? n 0 rest with
      | none => .error .malformed
      | some (code, rest) => (charOfCode code).map fun c => ([c], rest)
    | none, none, some (_, rest) => quotedBreaks (rest.length + 1) rest
    | none, none, none => .error .malformed

/-- Reads a quoted scalar behind its opening quote. -/
def quotedFrom (double : Bool) : Nat → List Char → List Char → Except Fault (List Char × List Char)
  | 0, _, _ => .error .malformed
  | fuel + 1, text, cs =>
    match cs with
    | [] => .error .malformed
    | c :: rest =>
      if c = ' ' || c = '\t' || isBreak c then do
        let (gap, rest) ← quotedGap cs
        quotedFrom double fuel (text ++ gap) rest
      else if double && c = '"' then .ok (text, rest)
      else if !double && c = '\'' then
        if rest.head? = some '\'' then quotedFrom double fuel (text ++ ['\'']) (rest.drop 1)
        else .ok (text, rest)
      else if double && c = '\\' then do
        let (chars, rest) ← escape rest
        quotedFrom double fuel (text ++ chars) rest
      else quotedFrom double fuel (text ++ [c]) rest

/-- What a block scalar does with the line ends behind it. -/
inductive Chomping where
  /-- One line end stays. -/
  | clip
  /-- None stays. -/
  | strip
  /-- All stay. -/
  | keep
  deriving DecidableEq

/-- The marks behind the beginning of a block scalar: what to do with line ends,
and an indentation. -/
def blockMarks (cs : List Char) : Except Fault (Chomping × Option Nat × List Char) :=
  let chomp? (cs : List Char) : Option Chomping × List Char :=
    if cs.head? = some '+' then (some .keep, cs.drop 1)
    else if cs.head? = some '-' then (some .strip, cs.drop 1)
    else (none, cs)
  let digit? (cs : List Char) : Option Nat × List Char :=
    match cs with
    | c :: rest => if c.isDigit then (some (c.toNat - 0x30), rest) else (none, cs)
    | [] => (none, [])
  let (first, cs) := chomp? cs
  let (indent, cs) := digit? cs
  let (second, cs) := if first.isNone && indent.isSome then chomp? cs else (none, cs)
  if indent = some 0 || !atSpace cs then .error .malformed
  else .ok ((first.or second).getD .clip, indent, cs)

/-- The rest of a line that holds nothing but a comment, without its line end. -/
def restOfLine (cs : List Char) : Except Fault (List Char) :=
  let rest := cs.dropWhile (· = ' ')
  let rest := if rest.head? = some '#' then rest.dropWhile fun c => !isBreak c else rest
  if !atLineEnd rest then .error .malformed
  else .ok (match takeBreak rest with
    | some (_, rest) => rest
    | none => rest)

/-- Spaces up to a column, and the rest. -/
def takeIndent : Nat → List Char → Nat × List Char
  | n + 1, ' ' :: cs =>
    let r := takeIndent n cs
    (r.1 + 1, r.2)
  | _, cs => (0, cs)

/-- The empty lines before a line that is indented to a column, and the column that this line
reaches. -/
def blockBreaks (indent : Nat) : Nat → List Char → List Char × Nat × List Char
  | 0, cs => ([], 0, cs)
  | fuel + 1, cs =>
    let (column, rest) := takeIndent indent cs
    match takeBreak rest with
    | none => ([], column, rest)
    | some (b, rest) =>
      let (more, column, rest) := blockBreaks indent fuel rest
      (b :: more, column, rest)

/-- The empty lines before the first line, the greatest column reached,
and the last line's column. -/
def firstBreaks : Nat → Nat → List Char → List Char × Nat × Nat × List Char
  | 0, most, cs => ([], most, 0, cs)
  | fuel + 1, most, cs =>
    let column := (cs.takeWhile (· = ' ')).length
    let rest := cs.drop column
    let most := max most column
    match takeBreak rest with
    | none => ([], most, column, rest)
    | some (b, rest) =>
      let (more, most, column, rest) := firstBreaks fuel most rest
      (b :: more, most, column, rest)

/-- Whether a line begins with a space or a tab. -/
def beginsBlank (cs : List Char) : Bool := cs.head?.any fun c => c = ' ' || c = '\t'

/-- A block scalar: its text, the column of what follows, and what follows. -/
structure BlockScalar where
  /-- The text. -/
  text : List Char
  /-- What follows. -/
  rest : List Char

/-- Reads the lines of a block scalar; `pending` is what the last line end and the empty lines
behind it become. -/
def blockLines (folded : Bool) (chomping : Chomping) (indent : Nat) :
    Nat → List Char → List Char → Nat → List Char → List Char → BlockScalar
  | 0, text, _, _, _, cs => ⟨text, cs⟩
  | fuel + 1, text, lineEnd, column, breaks, cs =>
    if column = indent && !cs.isEmpty then
      let line := cs.takeWhile fun c => !isBreak c
      let rest := cs.dropWhile fun c => !isBreak c
      let text := text ++ breaks ++ line
      let (lineEnd, rest) := match takeBreak rest with
        | some (b, rest) => ([b], rest)
        | none => ([], rest)
      let (breaks, column, rest) := blockBreaks indent (rest.length + 1) rest
      if column = indent && !rest.isEmpty then
        if folded && lineEnd = ['\n'] && !beginsBlank cs && !beginsBlank rest then
          blockLines folded chomping indent fuel
            (if breaks.isEmpty then text ++ [' '] else text) lineEnd
            column breaks rest
        else blockLines folded chomping indent fuel (text ++ lineEnd) lineEnd column breaks rest
      else
        match chomping with
        | .strip => ⟨text, rest⟩
        | .clip => ⟨text ++ lineEnd, rest⟩
        | .keep => ⟨text ++ lineEnd ++ breaks, rest⟩
    else
      match chomping with
      | .keep => ⟨text ++ lineEnd ++ breaks, cs⟩
      | .clip => ⟨text ++ lineEnd, cs⟩
      | .strip => ⟨text, cs⟩

/-- Reads a block scalar behind its first mark, inside a block of the given indentation. -/
def blockScalar (folded : Bool) (outer : Int) (cs : List Char) : Except Fault BlockScalar := do
  let (chomping, given, cs) ← blockMarks cs
  let cs ← restOfLine cs
  let least := max 1 (outer + 1).toNat
  match given with
  | some n =>
    let indent := least + n - 1
    let (breaks, column, rest) := blockBreaks indent (cs.length + 1) cs
    pure (blockLines folded chomping indent (cs.length + 1) [] [] column breaks rest)
  | none =>
    let (breaks, most, column, rest) := firstBreaks (cs.length + 1) 0 cs
    let indent := max least most
    pure (blockLines folded chomping indent (cs.length + 1) [] [] column breaks rest)

end RestContract.Yaml
