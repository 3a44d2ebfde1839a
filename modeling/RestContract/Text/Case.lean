import RestContract.Text.CaseTable

/-!
# Upper and lower case of whole texts

The full mappings are used, so a letter may become several. A capital sigma at the end
of a word has its own lower-case form: it stands after a cased letter and before none,
where caseless marks are passed over on both sides.
-/

namespace RestContract.Text

/-- Whether a code point lies in one of the listed ranges. -/
def inRanges (ranges : List (Nat × Nat)) (n : Nat) : Bool :=
  ranges.any fun r => r.1 ≤ n && n ≤ r.2

/-- The single letter that a table of runs gives, the letter itself when no run holds it. -/
def shiftBy (runs : List CaseRun) (c : Char) : Char :=
  let n := c.toNat
  match runs.find? fun r => r.first ≤ n && n ≤ r.last && (n - r.first) % r.step == 0 with
  | some r => Char.ofNat ((n : Int) + r.shift).toNat
  | none => c

/-- The letters that one letter becomes under a table of specials and a table of runs. -/
def recase (specials : List (Nat × List Nat)) (runs : List CaseRun) (c : Char) : List Char :=
  match specials.lookup c.toNat with
  | some ns => ns.map Char.ofNat
  | none => [shiftBy runs c]

/-- Whether the next letter that is no caseless mark is cased. -/
def meetsCased (cs : List Char) : Bool :=
  match cs.dropWhile fun c => inRanges caselessMarkRanges c.toNat with
  | [] => false
  | c :: _ => inRanges casedRanges c.toNat

/-- The lower case of the letters after those in `before`, which are given last first. -/
def lowerFrom (before : List Char) : List Char → List Char
  | [] => []
  | c :: cs =>
    let low :=
      if c = 'Σ' then (if meetsCased before && !meetsCased cs then ['ς'] else ['σ'])
      else recase lowerSpecials lowerRuns c
    low ++ lowerFrom (c :: before) cs

/-- The lower case of a text. -/
def lower (s : String) : String := String.ofList (lowerFrom [] s.toList)

/-- The upper case of a text. -/
def upper (s : String) : String :=
  String.ofList (s.toList.flatMap (recase upperSpecials upperRuns))

end RestContract.Text
