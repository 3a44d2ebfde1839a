import RestContract.Text.Blank

/-!
# Path templates

A template is a text in which a colon and an identifier make a hole. Resolving puts
texts into holes: at every colon the longest given name that follows it is replaced, and
what was put in is not looked at again. A group's base path and an endpoint's own path
are joined by one slash, unless the latter brings its own.
-/

namespace RestContract

/-- A piece of a template. -/
inductive Piece where
  /-- A character that stands for itself. -/
  | char (c : Char)
  /-- A hole with its name. -/
  | hole (name : String)
  deriving DecidableEq, Repr

namespace Template

/-- Whether a character begins the name of a hole: a letter or an underscore, in ASCII. -/
def isNameStart (c : Char) : Bool := c.isAlpha || c = '_'

/-- Whether a character continues the name of a hole: also a digit. -/
def isNameChar (c : Char) : Bool := c.isAlphanum || c = '_'

/-- The pieces of a template. -/
def pieces : List Char → List Piece
  | [] => []
  | [c] => [.char c]
  | mark :: c :: cs =>
    if mark = ':' && isNameStart c then
      .hole (String.ofList (c :: cs.takeWhile isNameChar)) :: pieces (cs.dropWhile isNameChar)
    else .char mark :: pieces (c :: cs)
termination_by cs => cs.length
decreasing_by
  · have := (List.dropWhile_sublist isNameChar (l := cs)).length_le
    simp only [List.length_cons]
    omega
  · simp

/-- The names of the holes among some pieces, in order. -/
def holes (ps : List Piece) : List String :=
  ps.filterMap fun p => match p with
    | .char _ => none
    | .hole name => some name

/-- The names of the holes of a template, in order of appearance. -/
def tokens (template : String) : List String := holes (pieces template.toList)

/-- A group's base path and an endpoint's own path in one template. -/
def join (base own : String) : String :=
  if own.isEmpty then base
  else if base.isEmpty then own
  else if own.toList.head? = some '/' then base ++ own
  else base ++ "/" ++ own

/-- The first of the given names with which a text begins, with its value. -/
def nameAt? (values : List (String × String)) (cs : List Char) : Option (String × String) :=
  values.find? fun v => v.1.toList.isPrefixOf cs

/-- A template with the first name that follows a colon replaced by its value, everywhere. -/
def resolveFrom (values : List (String × String)) : List Char → List Char
  | [] => []
  | c :: cs =>
    if c = ':' then
      match nameAt? values cs with
      | some (name, value) => value.toList ++ resolveFrom values (cs.drop name.length)
      | none => c :: resolveFrom values cs
    else c :: resolveFrom values cs
termination_by cs => cs.length
decreasing_by all_goals (simp only [List.length_drop, List.length_cons]; omega)

/-- The given texts with longer names first. -/
def longestFirst (values : List (String × String)) : List (String × String) :=
  values.mergeSort fun a b => b.1.length ≤ a.1.length

/-- A template with the given texts in its holes. -/
def resolve (template : String) (values : List (String × String)) : String :=
  String.ofList (resolveFrom (longestFirst values) template.toList)

/-- The holes of pieces put together are those of both parts. -/
theorem holes_append (ps qs : List Piece) : holes (ps ++ qs) = holes ps ++ holes qs := by
  simp [holes]

/-- Joining with an empty own path gives the base path. -/
@[simp] theorem join_empty (base : String) : join base "" = base := by simp [join]

end Template

end RestContract
