import RestContract.Template.Pattern

/-!
# Templates as regular expressions

A template is compiled to the text of a regular expression. A character that would mean something
there stands behind a backslash, a hole becomes a group that takes characters other than slashes,
and at the end a slash may follow. Two templates are for the same paths when they are compiled to
the same text.

An expression of this kind is read atom by atom. Matching tries the ways to match an atom in order,
a longer one before a shorter one, and goes back to the next way when what follows does not match.
-/

namespace RestContract

/-- A part of an expression. -/
inductive Atom where
  /-- The beginning of the text. -/
  | start
  /-- The end of the text, or the place before a line feed at its end. -/
  | stop
  /-- A character. -/
  | char (c : Char)
  /-- A character that may be missing. -/
  | optional (c : Char)
  /-- A group of characters other than slashes, at least one. -/
  | segment
  deriving DecidableEq, Repr

namespace Expression

/-- The characters that mean something of their own in an expression. -/
def marks : List Char :=
  ['(', ')', '[', ']', '\x7b', '\x7d', '?', '*', '+', '-', '|', '^', '$', '\\', '.', '&', '~', '#',
   ' ', '\t', '\n', '\r', '\x0b', '\x0c']

/-- A character as it stands for itself in an expression. -/
def literal (c : Char) : List Char := if c ∈ marks then ['\\', c] else [c]

/-- The group that takes the text of a hole. -/
def group : List Char := ['(', '[', '^', '/', ']', '+', ')']

/-- A part of an expression for a piece of a template. -/
def ofPiece : Piece → List Char
  | .char c => literal c
  | .hole _ => group

/-- The atoms of an expression, when it has no others than those. -/
def read : List Char → Option (List Atom)
  | [] => some []
  | c :: cs =>
    if c = '^' then (read cs).map (.start :: ·)
    else if c = '$' then (read cs).map (.stop :: ·)
    else if c = '(' then
      match cs with
      | '[' :: '^' :: '/' :: ']' :: '+' :: ')' :: rest => (read rest).map (.segment :: ·)
      | _ => none
    else if c = '\\' then
      match cs with
      | d :: '?' :: rest => if d.isAlphanum then none else (read rest).map (.optional d :: ·)
      | d :: rest => if d.isAlphanum then none else (read rest).map (.char d :: ·)
      | [] => none
    else if c ∈ marks then none
    else match cs with
      | '?' :: rest => (read rest).map (.optional c :: ·)
      | rest => (read rest).map (.char c :: ·)

/-- The texts in the groups of the first way to match a text; `fresh` says whether nothing of it has
been matched so far. -/
def groups? : List Atom → (fresh : Bool) → List Char → Option (List (List Char))
  | [], _, _ => some []
  | .start :: atoms, fresh, cs => if fresh then groups? atoms fresh cs else none
  | .stop :: atoms, fresh, cs => if cs = [] || cs = ['\n'] then groups? atoms fresh cs else none
  | .char _ :: _, _, [] => none
  | .char c :: atoms, _, d :: cs => if c = d then groups? atoms false cs else none
  | .optional _ :: atoms, fresh, [] => groups? atoms fresh []
  | .optional c :: atoms, fresh, d :: cs =>
    (if c = d then groups? atoms false cs else none).or (groups? atoms fresh (d :: cs))
  | .segment :: atoms, _, cs =>
    (Template.segmentCuts cs).findSome? fun cut => (groups? atoms false cut.2).map (cut.1 :: ·)

end Expression

namespace Template

/-- The text of the expression to which a template is compiled. -/
def expression (ps : List Piece) : String :=
  String.ofList ('^' :: ps.flatMap Expression.ofPiece ++ ['/', '?', '$'])

end Template

end RestContract
