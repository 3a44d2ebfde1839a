/-!
# Similar texts

Two texts are compared by the characters that they share: the longest block that stands
in both, and then what the texts share before and behind it. They are similar when at
least six of ten characters are shared.
-/

namespace RestContract.Text

/-- The number of characters in which two texts begin alike. -/
def sharedStart : List Char → List Char → Nat
  | a :: as, b :: bs => if a = b then sharedStart as bs + 1 else 0
  | _, _ => 0

/-- A block of characters that stands in two texts. -/
structure Block where
  /-- Where it begins in the first text. -/
  left : Nat
  /-- Where it begins in the second text. -/
  right : Nat
  /-- The number of its characters. -/
  size : Nat

/-- The longest block of two texts, the leftmost one in the first text and then in the second. -/
def longestBlock (as bs : List Char) : Block :=
  (List.range as.length).foldl (fun best i =>
    (List.range bs.length).foldl (fun best j =>
      let size := sharedStart (as.drop i) (bs.drop j)
      if best.size < size then ⟨i, j, size⟩ else best) best) ⟨0, 0, 0⟩

/-- The number of shared characters, found in at most so many rounds. -/
def sharedCount : Nat → List Char → List Char → Nat
  | 0, _, _ => 0
  | rounds + 1, as, bs =>
    let block := longestBlock as bs
    if block.size = 0 then 0
    else sharedCount rounds (as.take block.left) (bs.take block.right) + block.size +
      sharedCount rounds (as.drop (block.left + block.size)) (bs.drop (block.right + block.size))

/-- The number of shared characters of two texts, and the number of all their characters. -/
def sharedPart (s t : String) : Nat × Nat :=
  (sharedCount s.length s.toList t.toList, s.length + t.length)

/-- Whether six of ten characters of two texts are shared. -/
def areSimilar (s t : String) : Bool := 3 * (sharedPart s t).2 ≤ 10 * (sharedPart s t).1

/-- Whether a text shares at least as much with a word as another text; of two that share as much,
the later one counts. -/
def sharesMore (word s t : String) : Bool :=
  let a := (sharedPart s word).1 * (sharedPart t word).2
  let b := (sharedPart t word).1 * (sharedPart s word).2
  if a = b then t ≤ s else b < a

/-- The three of some texts that are most similar to a word, in the order of texts. -/
def closeTo (word : String) (texts : List String) : List String :=
  let similar := (texts.filter (areSimilar · word)).mergeSort (sharesMore word)
  (similar.take 3).mergeSort fun s t => decide (s ≤ t)

end RestContract.Text
