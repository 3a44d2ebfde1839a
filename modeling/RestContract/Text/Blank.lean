/-!
# Blanks, and cutting a text into pieces

Texts are cut as lists of characters. The blanks are the characters that Unicode
calls white space, together with the four information separators. Trimming removes
the characters of a class from the ends only, and cutting at a mark loses nothing
but the mark itself.
-/

namespace RestContract.Text

/-- White space as Unicode has it: tab to carriage return and every space. -/
def isSpace (c : Char) : Bool :=
  let n := c.toNat
  (0x09 ≤ n && n ≤ 0x0D) || n == 0x20 || n == 0x85 || n == 0xA0 || n == 0x1680 ||
    (0x2000 ≤ n && n ≤ 0x200A) || n == 0x2028 || n == 0x2029 || n == 0x202F || n == 0x205F ||
    n == 0x3000

/-- A blank: white space or an information separator. -/
def isBlank (c : Char) : Bool := isSpace c || (0x1C ≤ c.toNat && c.toNat ≤ 0x1F)

/-- A text without the leading characters of a class. -/
def trimStart (p : Char → Bool) (cs : List Char) : List Char := cs.dropWhile p

/-- A text without the trailing characters of a class. -/
def trimEnd (p : Char → Bool) (cs : List Char) : List Char := (cs.reverse.dropWhile p).reverse

/-- A text without the leading and trailing characters of a class. -/
def trim (p : Char → Bool) (cs : List Char) : List Char := trimEnd p (trimStart p cs)

/-- A text without the blanks at its ends. -/
def strip (s : String) : String := String.ofList (trim isBlank s.toList)

/-- The text before the first mark, and the text after it when the mark is there. -/
def cut (mark : Char) : List Char → List Char × Option (List Char)
  | [] => ([], none)
  | c :: cs =>
    if c = mark then ([], some cs)
    else ((c :: (cut mark cs).1), (cut mark cs).2)

/-- The pieces between the marks; a text with no mark is one piece. -/
def splitAt [DecidableEq α] (mark : α) : List α → List (List α)
  | [] => [[]]
  | c :: cs =>
    if c = mark then [] :: splitAt mark cs
    else match splitAt mark cs with
      | [] => [[c]]
      | piece :: pieces => (c :: piece) :: pieces

/-- The words of a text: what stands between blanks. -/
def words (cs : List Char) : List String :=
  let pieces := splitAt ' ' (cs.map fun c => if isBlank c then ' ' else c)
  (pieces.filter (!·.isEmpty)).map String.ofList

/-- A text filled up with spaces on the right to a least width. -/
def padRight (width : Nat) (s : String) : String :=
  s ++ String.ofList (List.replicate (width - s.length) ' ')

/-- The decimal digits of a number, filled up with zeros on the left to a least width. -/
def zeroPadded (width n : Nat) : String :=
  let digits := toString n
  String.ofList (List.replicate (width - digits.length) '0') ++ digits

/-- The rest of a text after a given beginning, when it begins so. -/
def afterPrefix? : List Char → List Char → Option (List Char)
  | [], cs => some cs
  | _ :: _, [] => none
  | p :: ps, c :: cs => if p = c then afterPrefix? ps cs else none

/-- Cutting at a mark splits the text exactly there. -/
theorem cut_append (mark : Char) (cs : List Char) :
    cs = match cut mark cs with
      | (before, some after) => before ++ mark :: after
      | (before, none) => before := by
  induction cs with
  | nil => rfl
  | cons c cs ih =>
    by_cases h : c = mark
    · simp [cut, h]
    · simp only [cut, h, if_false]
      cases hc : cut mark cs with
      | mk before after => cases after <;> simp_all

end RestContract.Text
