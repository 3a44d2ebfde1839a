import RestContract.Yaml.Scalar

/-!
# From YAML texts to tokens

Indentation opens and closes blocks: whatever begins left of a block ends it. Anything
that may be the key of a mapping is remembered until a colon shows that it was one; then
the marks for the key, and for the mapping that it opens, are put before it. A key without
such marks has to stand on one line and may not be too long.
-/

namespace RestContract.Yaml

/-- Something that may turn out to be a key. -/
structure PossibleKey where
  /-- The number of tokens before it. -/
  place : Nat
  /-- Whether it has to be a key. -/
  required : Bool
  /-- The number of characters before it. -/
  index : Nat
  /-- Its line. -/
  line : Nat
  /-- Its column. -/
  column : Nat

/-- How far a text has been read, and what is known of it. -/
structure Lexer where
  /-- What has not been read. -/
  rest : List Char
  /-- The number of characters read. -/
  index : Nat
  /-- The number of lines read. -/
  line : Nat
  /-- The column in the current line. -/
  column : Nat
  /-- The tokens read, the last one first. -/
  tokens : List Token
  /-- The number of tokens read. -/
  count : Nat
  /-- The number of open flow collections. -/
  flow : Nat
  /-- The column of the innermost block, which is less than any column outside all blocks. -/
  indent : Int
  /-- The columns of the outer blocks, the innermost first. -/
  outer : List Int
  /-- Whether a key without marks may begin here. -/
  keyAllowed : Bool
  /-- What may be a key, for each number of open flow collections. -/
  keys : List (Nat × PossibleKey)

namespace Lexer

/-- The beginning of a text. -/
def start (cs : List Char) : Lexer := ⟨cs, 0, 0, 0, [], 0, 0, -1, [], true, []⟩

/-- The text behind one character. -/
def skip (l : Lexer) : Lexer :=
  match l.rest with
  | [] => l
  | c :: rest =>
    let ends := isBreak c && !(c = '\r' && rest.head? = some '\n')
    { l with
      rest := rest
      index := l.index + 1
      line := if ends then l.line + 1 else l.line
      column := if ends then 0 else if c.toNat = 0xFEFF then l.column else l.column + 1 }

/-- The text behind a number of characters. -/
def skipN : Nat → Lexer → Lexer
  | 0, l => l
  | n + 1, l => skipN n l.skip

/-- The text from a later place on. -/
def skipTo (rest : List Char) (l : Lexer) : Lexer := skipN (l.rest.length - rest.length) l

/-- One more token. -/
def push (t : Token) (l : Lexer) : Lexer := { l with tokens := t :: l.tokens, count := l.count + 1 }

/-- A token put where a number of tokens stand before it. -/
def pushAt (place : Nat) (t : Token) (l : Lexer) : Lexer :=
  let behind := l.count - place
  { l with tokens := l.tokens.take behind ++ t :: l.tokens.drop behind, count := l.count + 1 }

/-- Whether a key may begin here. -/
def allowKey (allowed : Bool) (l : Lexer) : Lexer := { l with keyAllowed := allowed }

/-- Forgets what may be a key among the current flow collections; it may not have had to be one. -/
def dropKey (l : Lexer) : Except Fault Lexer :=
  match l.keys.lookup l.flow with
  | some key =>
    if key.required then .error .malformed
    else .ok { l with keys := l.keys.filter fun k => k.1 ≠ l.flow }
  | none => .ok l

/-- Forgets keys that would cross a line or be too long. -/
def dropStaleKeys (l : Lexer) : Except Fault Lexer :=
  let isStale (k : PossibleKey) : Bool := k.line ≠ l.line || 1024 < l.index - k.index
  if l.keys.any fun k => isStale k.2 && k.2.required then .error .malformed
  else .ok { l with keys := l.keys.filter fun k => !isStale k.2 }

/-- Remembers that a key may begin here. -/
def saveKey (l : Lexer) : Except Fault Lexer :=
  if !l.keyAllowed then .ok l
  else do
    let required := l.flow = 0 && l.indent = (l.column : Int)
    let l ← l.dropKey
    pure { l with keys := (l.flow, ⟨l.count, required, l.index, l.line, l.column⟩) :: l.keys }

/-- Closes the blocks that begin right of a column. -/
def closeBlocks (column : Int) : Nat → Lexer → Lexer
  | 0, l => l
  | fuel + 1, l =>
    if l.flow ≠ 0 || l.indent ≤ column then l
    else closeBlocks column fuel
      (push .blockEnd { l with indent := l.outer.headD (-1), outer := l.outer.drop 1 })

/-- Closes the blocks that begin right of a column. -/
def unwind (column : Int) (l : Lexer) : Lexer := closeBlocks column (l.outer.length + 1) l

/-- Whether a block opens at a column. -/
def opensAt (column : Nat) (l : Lexer) : Bool := l.indent < (column : Int)

/-- The text in a block that opens at a column. -/
def openAt (column : Nat) (l : Lexer) : Lexer :=
  { l with indent := column, outer := l.indent :: l.outer }

/-- Skips blanks, comments and line ends; behind a line end a key may begin. -/
def skipSpace : Nat → Lexer → Lexer
  | 0, l => l
  | fuel + 1, l =>
    let rest := l.rest.dropWhile (· = ' ')
    let rest := if rest.head? = some '#' then rest.dropWhile fun c => !isBreak c else rest
    let l := l.skipTo rest
    match takeBreak rest with
    | none => l
    | some (_, rest) =>
      let l := l.skipTo rest
      skipSpace fuel (if l.flow = 0 then l.allowKey true else l)

/-- The name at the beginning of a text, which may not be empty. -/
def takeName (cs : List Char) : Except Fault (String × List Char) :=
  let name := cs.takeWhile isNameChar
  if name.isEmpty then .error .malformed else .ok (String.ofList name, cs.dropWhile isNameChar)

/-- The digits at the beginning of a text, which may not be none. -/
def takeNumber (cs : List Char) : Except Fault (Nat × List Char) :=
  let digits := cs.takeWhile Char.isDigit
  if digits.isEmpty then .error .malformed
  else .ok (digits.foldl (fun n c => 10 * n + (c.toNat - 0x30)) 0, cs.dropWhile Char.isDigit)

/-- The bytes of the escapes at the beginning of a text. -/
def takeEscapes : Nat → List Char → Except Fault (Bytes × List Char)
  | 0, _ => .error .malformed
  | fuel + 1, cs =>
    match cs with
    | '%' :: a :: b :: rest =>
      match Percent.hexValue? a, Percent.hexValue? b with
      | some x, some y =>
        (takeEscapes fuel rest).map fun r => (UInt8.ofNat (16 * x + y) :: r.1, r.2)
      | _, _ => .error .malformed
    | '%' :: _ => .error .malformed
    | cs => .ok ([], cs)

/-- The characters of a tag at the beginning of a text. -/
def takeTagChars : Nat → List Char → Except Fault (List Char × List Char)
  | 0, _ => .error .malformed
  | fuel + 1, cs =>
    match cs with
    | [] => .ok ([], [])
    | c :: rest =>
      if !isTagChar c then .ok ([], cs)
      else if c = '%' then do
        let (bytes, rest) ← takeEscapes (cs.length + 1) cs
        match Utf8.decodeChars? bytes with
        | none => .error .malformed
        | some chars => (takeTagChars fuel rest).map fun r => (chars ++ r.1, r.2)
      else (takeTagChars fuel rest).map fun r => (c :: r.1, r.2)

/-- The text of a tag at the beginning of a text, which may not be empty. -/
def takeTagText (cs : List Char) : Except Fault (String × List Char) := do
  let (chars, rest) ← takeTagChars (cs.length + 1) cs
  if rest.length = cs.length then .error .malformed else .ok (String.ofList chars, rest)

/-- The short form of a tag at the beginning of a text: an exclamation mark, or a name between two
of them. -/
def takeHandle (cs : List Char) : Except Fault (String × List Char) :=
  match cs with
  | '!' :: ' ' :: rest => .ok ("!", ' ' :: rest)
  | '!' :: rest =>
    let name := rest.takeWhile isNameChar
    match rest.dropWhile isNameChar with
    | '!' :: rest => .ok (String.ofList ('!' :: name ++ ['!']), rest)
    | _ => .error .malformed
  | _ => .error .malformed

/-- Whether a tag beginning here has a short form of more than one exclamation mark. -/
def hasHandle (cs : List Char) : Bool :=
  ((cs.drop 1).takeWhile fun c => !(c = ' ' || isBreak c)).contains '!'

/-- Reads a tag. -/
def takeTag (cs : List Char) : Except Fault (Token × List Char) := do
  let (token, rest) ←
    if (cs.drop 1).head? = some '<' then do
      let (suffix, rest) ← takeTagText (cs.drop 2)
      if rest.head? ≠ some '>' then .error .malformed else pure (Token.tag none suffix, rest.drop 1)
    else if atBlank (cs.drop 1) then pure (Token.tag none "!", cs.drop 1)
    else do
      let (handle, rest) ← if hasHandle cs then takeHandle cs else pure ("!", cs.drop 1)
      let (suffix, rest) ← takeTagText rest
      pure (Token.tag (some handle) suffix, rest)
  if atSpace rest then pure (token, rest) else .error .malformed

/-- Reads an anchor or an alias behind its mark. -/
def takeAnchor (cs : List Char) : Except Fault (String × List Char) := do
  let (name, rest) ← takeName cs
  if atBlank rest || rest.head?.any ("?:,]\x7d%@\x60".toList.contains ·) then pure (name, rest)
  else .error .malformed

/-- Reads a directive behind its mark. -/
def takeDirective (cs : List Char) : Except Fault (Token × List Char) := do
  let (name, rest) ← takeName cs
  if !atSpace rest then .error .malformed
  else
    let spaced (cs : List Char) := cs.dropWhile (· = ' ')
    let (token, rest) ←
      if name = "YAML" then do
        let (major, rest) ← takeNumber (spaced rest)
        if rest.head? ≠ some '.' then .error .malformed
        else do
          let (_, rest) ← takeNumber (rest.drop 1)
          if atSpace rest then pure (Token.version major, rest) else .error .malformed
      else if name = "TAG" then do
        let (handle, rest) ← takeHandle (spaced rest)
        if rest.head? ≠ some ' ' then .error .malformed
        else do
          let (beginning, rest) ← takeTagText (spaced rest)
          if atSpace rest then pure (Token.shorthand handle beginning, rest) else .error .malformed
      else pure (Token.directive, rest.dropWhile fun c => !isBreak c)
    pure (token, ← restOfLine rest)

/-- Reads a mark between documents or a directive. -/
def documentMark (token : Token) (rest : List Char) (l : Lexer) : Except Fault Lexer := do
  let l ← (l.unwind (-1)).dropKey
  pure (push token ((l.allowKey false).skipTo rest))

/-- Reads the beginning of a flow collection. -/
def flowStart (token : Token) (l : Lexer) : Except Fault Lexer := do
  let l ← l.saveKey
  pure (push token ({ l with flow := l.flow + 1, keyAllowed := true }.skip))

/-- Reads the end of a flow collection, of which one has to be open. -/
def flowEnd (token : Token) (l : Lexer) : Except Fault Lexer := do
  let l ← l.dropKey
  if l.flow = 0 then .error .malformed
  else pure (push token ({ l with flow := l.flow - 1, keyAllowed := false }.skip))

/-- Reads the comma between the entries of a flow collection. -/
def flowEntry (l : Lexer) : Except Fault Lexer := do
  pure (push .flowEntry (← (l.allowKey true).dropKey).skip)

/-- Opens a block at the current column, if it does not stand open there. -/
def openBlock (token : Token) (l : Lexer) : Except Fault Lexer :=
  if l.flow ≠ 0 then .ok l
  else if !l.keyAllowed then .error .malformed
  else if l.opensAt l.column then .ok (push token (l.openAt l.column))
  else .ok l

/-- Reads the hyphen of an entry. -/
def blockEntry (l : Lexer) : Except Fault Lexer := do
  let l ← (← l.openBlock .blockSequenceStart |>.map (allowKey true)).dropKey
  pure (push .blockEntry l.skip)

/-- Reads the question mark of a key. -/
def keyMark (l : Lexer) : Except Fault Lexer := do
  let l ← l.openBlock .blockMappingStart
  let l ← (l.allowKey (l.flow = 0)).dropKey
  pure (push .key l.skip)

/-- Reads the colon of a value; what was remembered as a possible key is one then. -/
def valueMark (l : Lexer) : Except Fault Lexer := do
  match l.keys.lookup l.flow with
  | some key =>
    let l := { l with keys := l.keys.filter fun k => k.1 ≠ l.flow }
    let l := l.pushAt key.place .key
    let l :=
      if l.flow = 0 && l.opensAt key.column then
        (l.openAt key.column).pushAt key.place .blockMappingStart
      else l
    pure (push .value (l.allowKey false).skip)
  | none =>
    let l ← l.openBlock .blockMappingStart
    let l ← (l.allowKey (l.flow = 0)).dropKey
    pure (push .value l.skip)

/-- Reads something that may be a key: its token and what follows it. -/
def possibleKey (read : List Char → Except Fault (Token × List Char))
    (l : Lexer) : Except Fault Lexer := do
  let l ← l.saveKey
  let (token, rest) ← read l.rest
  pure (push token ((l.allowKey false).skipTo rest))

/-- Reads a plain scalar. -/
def plainScalar (l : Lexer) : Except Fault Lexer := do
  let l ← l.saveKey
  let s := plainFrom (l.flow ≠ 0) (l.indent + 1) (l.rest.length + 1) [] [] false l.rest
  pure (push (.scalar true (String.ofList s.text)) ((l.allowKey s.crossed).skipTo s.rest))

/-- Reads a block scalar. -/
def blockText (folded : Bool) (l : Lexer) : Except Fault Lexer := do
  let l ← (l.allowKey true).dropKey
  let s ← blockScalar folded l.indent (l.rest.drop 1)
  pure (push (.scalar false (String.ofList s.text)) (l.skipTo s.rest))

/-- Reads a quoted scalar. -/
def quotedScalar (double : Bool) (l : Lexer) : Except Fault Lexer :=
  possibleKey (fun cs => (quotedFrom double (cs.length + 1) [] (cs.drop 1)).map fun r =>
    (.scalar false (String.ofList r.1), r.2)) l

/-- The marks that no plain scalar begins with. -/
def indicators : List Char := "-?:,[]\x7b\x7d#&*!|>'\"%@\x60".toList

/-- Whether a plain scalar begins here. -/
def beginsPlain (flow : Bool) (c : Char) (rest : List Char) : Bool :=
  (!(c = ' ' || c = '\t' || isBreak c) && !indicators.contains c) ||
    (!atBlank rest && (c = '-' || (!flow && (c = '?' || c = ':'))))

/-- Reads one token that begins here. -/
def token (c : Char) (rest : List Char) (l : Lexer) : Except Fault Lexer :=
  let inFlow := l.flow ≠ 0
  if c = '%' && l.column = 0 then do
    let (t, rest) ← takeDirective rest
    l.documentMark t rest
  else if l.column = 0 && c = '-' && atDocumentMark l.rest then
    l.documentMark .documentStart (l.rest.drop 3)
  else if l.column = 0 && c = '.' && atDocumentMark l.rest then
    l.documentMark .documentEnd (l.rest.drop 3)
  else if c = '[' then l.flowStart .flowSequenceStart
  else if c = '\x7b' then l.flowStart .flowMappingStart
  else if c = ']' then l.flowEnd .flowSequenceEnd
  else if c = '\x7d' then l.flowEnd .flowMappingEnd
  else if c = ',' then l.flowEntry
  else if c = '-' && atBlank rest then l.blockEntry
  else if c = '?' && (inFlow || atBlank rest) then l.keyMark
  else if c = ':' && (inFlow || atBlank rest) then l.valueMark
  else if c = '*' then
    l.possibleKey fun cs => (takeAnchor (cs.drop 1)).map fun r => (.alias r.1, r.2)
  else if c = '&' then
    l.possibleKey fun cs => (takeAnchor (cs.drop 1)).map fun r => (.anchor r.1, r.2)
  else if c = '!' then l.possibleKey takeTag
  else if c = '|' && !inFlow then l.blockText false
  else if c = '>' && !inFlow then l.blockText true
  else if c = '\'' then l.quotedScalar false
  else if c = '"' then l.quotedScalar true
  else if beginsPlain inFlow c rest then l.plainScalar
  else .error .malformed

/-- Reads the next token, or closes what is open when there is none. -/
def step (l : Lexer) : Except Fault Lexer := do
  let l := skipSpace (l.rest.length + 1) l
  let l ← l.dropStaleKeys
  let l := l.unwind l.column
  match l.rest with
  | [] => (l.unwind (-1)).dropKey
  | c :: rest => l.token c rest

/-- The tokens before anything that may still turn out to be a key. -/
def settledTokens (l : Lexer) : List Token :=
  let isPending (k : PossibleKey) : Bool := k.line = l.line && l.index - k.index ≤ 1024
  let pending := (l.keys.filter fun k => isPending k.2).map fun k => k.2.place
  l.tokens.reverse.take (pending.foldl min l.count)

/-- Reads all tokens, at most as many as the fuel allows;
what is read last stands behind a fault. -/
def run : Nat → Lexer → List Token
  | 0, l => l.tokens.reverse ++ [.broken .malformed]
  | fuel + 1, l =>
    match l.step with
    | .error fault => l.settledTokens ++ [.broken fault]
    | .ok next => if l.rest.isEmpty then next.tokens.reverse else run fuel next

end Lexer

/-- The tokens of a text up to its first fault; a byte order mark at its beginning is
passed over. -/
def tokens (cs : List Char) : List Token :=
  let l := Lexer.start cs
  Lexer.run (cs.length + 3) (if cs.head? = some (Char.ofNat 0xFEFF) then l.skip else l)

end RestContract.Yaml
