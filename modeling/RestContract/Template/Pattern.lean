import RestContract.Template.Basic
import RestContract.Text.Percent
import RestContract.Value.Basic

/-!
# Matching paths against templates

A template is normalized to begin with one slash and end with none. A path matches it
when every hole is filled by a text without slashes that is not empty; a slash or a line
feed, or both in that order, may follow. Of several ways to fill the holes the one with
the longest text in the first hole counts, then in the second, and so on. The texts are
percent-coded.
-/

namespace RestContract.Template

/-- A path with exactly one slash before it and none behind it. -/
def normalize (path : String) : String :=
  String.ofList ('/' :: Text.trim (· = '/') path.toList)

/-- The pieces of a normalized template. -/
def pattern (template : String) : List Piece := pieces (normalize template).toList

/-- The number of characters that stand for themselves. -/
def staticLength (ps : List Piece) : Nat := (ps.filter fun p => match p with
  | .char _ => true
  | .hole _ => false).length

/-- The pieces without the names of their holes. -/
def skeleton (ps : List Piece) : List (Option Char) :=
  ps.map fun p => match p with
    | .char c => some c
    | .hole _ => none

/-- The ways to cut a text behind one or more characters other than a slash, longest first. -/
def segmentCuts : List Char → List (List Char × List Char)
  | [] => []
  | c :: cs =>
    if c = '/' then []
    else (segmentCuts cs).map (fun r => (c :: r.1, r.2)) ++ [([c], cs)]

/-- Whether a text may follow a complete match. -/
def isTail (cs : List Char) : Bool :=
  cs = [] || cs = ['/'] || cs = ['\n'] || cs = ['/', '\n']

/-- The texts in the holes of pieces that match a path, the first hole as long as possible, and so
on. -/
def fill? : List Piece → List Char → Option (List (List Char))
  | [], cs => if isTail cs then some [] else none
  | .char _ :: _, [] => none
  | .char c :: ps, d :: cs => if c = d then fill? ps cs else none
  | .hole _ :: ps, cs =>
    (segmentCuts cs).findSome? fun r => (fill? ps r.2).map (r.1 :: ·)

/-- The names of the holes with the texts in them; of a repeated name the last text counts. -/
def bind (names : List String) (texts : List (List Char)) : List (String × String) :=
  (names.zip texts).foldl (fun acc p => storeName p.1 (String.ofList (Percent.unescape p.2)) acc) []

/-- The texts that a path gives to the names of a template. -/
def params? (ps : List Piece) (path : String) : Option (List (String × String)) :=
  (fill? ps path.toList).map (bind (holes ps))

end RestContract.Template
