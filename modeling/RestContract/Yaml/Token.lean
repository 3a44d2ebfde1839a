import RestContract.Text.Blank

/-!
# Tokens of YAML texts

The marks of the language, the scalars between them, and the classes of characters that
decide where a token ends.
-/

namespace RestContract.Yaml

/-- Why a YAML text has no value. -/
inductive Fault where
  /-- The text is not well-formed. -/
  | malformed
  /-- A scalar is no value of its type. -/
  | value
  /-- A scalar is no truth value. -/
  | truth
  /-- A scalar has no form of its type. -/
  | form
  /-- A scalar is empty where its first character matters. -/
  | empty
  /-- A number is too large for what is done with it. -/
  | range
  /-- A mapping stands where the text of a scalar is needed. -/
  | kind
  /-- Nodes are nested too deeply. -/
  | nesting
  deriving DecidableEq, Repr

/-- A token. -/
inductive Token where
  /-- The version of the language. -/
  | version (major : Nat)
  /-- A short form for the beginnings of tags. -/
  | shorthand (handle beginning : String)
  /-- A directive that has no meaning. -/
  | directive
  | documentStart
  | documentEnd
  | blockSequenceStart
  | blockMappingStart
  | blockEnd
  | flowSequenceStart
  | flowSequenceEnd
  | flowMappingStart
  | flowMappingEnd
  | blockEntry
  | flowEntry
  | key
  | value
  | alias (name : String)
  | anchor (name : String)
  /-- A tag with the short form before it, if there is one. -/
  | tag (handle : Option String) (suffix : String)
  /-- A scalar, plain or between quotes. -/
  | scalar (plain : Bool) (text : String)
  /-- The place from which on nothing can be read. -/
  | broken (fault : Fault)
  deriving DecidableEq, Repr

/-- Whether a character ends a line. -/
def isBreak (c : Char) : Bool :=
  c = '\n' || c = '\r' || c.toNat = 0x85 || c.toNat = 0x2028 || c.toNat = 0x2029

/-- Whether the end of the text or of a line begins here. -/
def atLineEnd (cs : List Char) : Bool := cs.head?.all isBreak

/-- Whether the end of the text or of a line, or a space, begins here. -/
def atSpace (cs : List Char) : Bool := cs.head?.all fun c => c = ' ' || isBreak c

/-- Whether the end of the text or of a line, a space or a tab begins here. -/
def atBlank (cs : List Char) : Bool := cs.head?.all fun c => c = ' ' || c = '\t' || isBreak c

/-- A line end as it counts inside a scalar, and what follows it. -/
def takeBreak : List Char → Option (Char × List Char)
  | [] => none
  | '\r' :: '\n' :: cs => some ('\n', cs)
  | c :: cs =>
    if c = '\n' || c = '\r' || c.toNat = 0x85 then some ('\n', cs)
    else if isBreak c then some (c, cs)
    else none

/-- Whether a line begins with the mark of a document's beginning or end. -/
def atDocumentMark (cs : List Char) : Bool :=
  (cs.take 3 = ['-', '-', '-'] || cs.take 3 = ['.', '.', '.']) && atBlank (cs.drop 3)

/-- A letter, a digit, a hyphen or an underscore, in ASCII. -/
def isNameChar (c : Char) : Bool := c.isAlphanum || c = '-' || c = '_'

/-- Whether a character can stand in a tag. -/
def isTagChar (c : Char) : Bool := c.isAlphanum || "-;/?:@&=+$,_.!~*'()[]%".toList.contains c

/-- Whether a character is allowed in a text. -/
def isAllowed (c : Char) : Bool :=
  let n := c.toNat
  n == 0x09 || n == 0x0A || n == 0x0D || (0x20 ≤ n && n ≤ 0x7E) || n == 0x85 ||
    (0xA0 ≤ n && n ≤ 0xD7FF) || (0xE000 ≤ n && n ≤ 0xFFFD) || 0x10000 ≤ n

/-- The line ends of files as line feeds. -/
def unifyLineEnds : List Char → List Char
  | [] => []
  | '\r' :: '\n' :: cs => '\n' :: unifyLineEnds cs
  | c :: cs => (if c = '\r' then '\n' else c) :: unifyLineEnds cs

end RestContract.Yaml
