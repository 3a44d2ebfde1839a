import Mathlib
import RestContract.Template.Pattern

/-!
# The pieces of a template

Cutting a template into pieces loses nothing, and the name in a hole begins with a letter
or an underscore. A slash belongs to no hole, so a template may be cut at any slash: the
pieces on both sides are found independently. In particular normalizing a template only
removes slashes from the ends of its pieces.
-/

namespace RestContract

/-- The text of a piece with texts in place of holes. -/
def Piece.fill (value : String → List Char) : Piece → List Char
  | .char c => [c]
  | .hole name => value name

/-- Whether a piece is a slash. -/
def Piece.isSlash (p : Piece) : Bool := p = .char '/'

@[simp] theorem Piece.isSlash_char (c : Char) : (Piece.char c).isSlash = decide (c = '/') := by
  simp [Piece.isSlash]

@[simp] theorem Piece.isSlash_hole (name : String) : (Piece.hole name).isSlash = false := by
  simp [Piece.isSlash]

namespace Template

/-- The text of some pieces with texts in place of holes. -/
def spread (value : String → List Char) (ps : List Piece) : List Char :=
  ps.flatMap (Piece.fill value)

@[simp] theorem spread_nil (value : String → List Char) : spread value [] = [] := rfl

@[simp] theorem spread_char (value : String → List Char) (c : Char) (ps : List Piece) :
    spread value (.char c :: ps) = c :: spread value ps := rfl

@[simp] theorem spread_hole (value : String → List Char) (name : String) (ps : List Piece) :
    spread value (.hole name :: ps) = value name ++ spread value ps := rfl

/-- Only the texts in the holes matter. -/
theorem spread_congr {value other : String → List Char} {ps : List Piece}
    (h : ∀ name ∈ holes ps, value name = other name) : spread value ps = spread other ps := by
  induction ps with
  | nil => rfl
  | cons p ps ih =>
    cases p with
    | char c => exact congrArg (c :: ·) (ih h)
    | hole name =>
      rw [spread_hole, spread_hole, h name List.mem_cons_self,
        ih fun other ho => h other (List.mem_cons_of_mem _ ho)]

/-- The name of a hole is in the list of names exactly when the hole is among the pieces. -/
theorem mem_holes {ps : List Piece} {name : String} : name ∈ holes ps ↔ .hole name ∈ ps := by
  simp only [holes, List.mem_filterMap]
  constructor
  · rintro ⟨p, hp, he⟩
    cases p with
    | char c => simp at he
    | hole other => rwa [Option.some.inj he] at hp
  · exact fun h => ⟨_, h, rfl⟩

/-- A text that can be the name of a hole. -/
def IsName (name : String) : Prop :=
  ∃ c cs, name.toList = c :: cs ∧ isNameStart c = true ∧ cs.all isNameChar = true

/-- A character that begins a name may also continue one. -/
theorem isNameChar_of_isNameStart {c : Char} (h : isNameStart c = true) : isNameChar c = true := by
  simp only [isNameStart, isNameChar, Char.isAlphanum, Bool.or_eq_true] at *
  exact h.imp_left Or.inl

/-- Every character of a name may stand in one. -/
theorem IsName.isNameChar {name : String} (h : IsName name) :
    ∀ c ∈ name.toList, isNameChar c = true := by
  obtain ⟨c, cs, he, hc, hcs⟩ := h
  rw [he]
  intro d hd
  rcases List.mem_cons.mp hd with rfl | hd
  · exact isNameChar_of_isNameStart hc
  · exact List.all_eq_true.mp hcs d hd

/-- A hole holds a name. -/
theorem isName_of_hole_mem {cs : List Char} {name : String} (h : .hole name ∈ pieces cs) :
    IsName name := by
  induction cs using pieces.induct with
  | case1 => simp [pieces] at h
  | case2 c => simp [pieces] at h
  | case3 mark c cs hm ih =>
    rw [pieces, if_pos hm] at h
    rcases List.mem_cons.mp h with h | h
    · obtain rfl := Piece.hole.inj h
      exact ⟨c, _, String.toList_ofList, (Bool.and_eq_true_iff.mp hm).2, List.all_takeWhile⟩
    · exact ih h
  | case4 mark c cs hm ih =>
    rw [pieces, if_neg hm] at h
    rcases List.mem_cons.mp h with h | h
    · exact absurd h (by simp)
    · exact ih h

/-- The text of a hole in a template. -/
def mark (name : String) : List Char := ':' :: name.toList

/-- Cutting a template into pieces loses nothing. -/
theorem spread_mark_pieces (cs : List Char) : spread mark (pieces cs) = cs := by
  induction cs using pieces.induct with
  | case1 => simp [pieces]
  | case2 c => simp [pieces]
  | case3 m c cs hm ih =>
    have hc : m = ':' := by simpa using (Bool.and_eq_true_iff.mp hm).1
    rw [pieces, if_pos hm, spread_hole, ih, mark, String.toList_ofList, hc]
    simp [List.takeWhile_append_dropWhile]
  | case4 m c cs hm ih => rw [pieces, if_neg hm, spread_char, ih]

private theorem takeWhile_isNameChar_append_slash (cs ds : List Char) :
    (cs ++ '/' :: ds).takeWhile isNameChar = cs.takeWhile isNameChar := by
  have hs : isNameChar '/' = false := by decide
  induction cs with
  | nil => simp [hs]
  | cons c cs ih => by_cases hc : isNameChar c = true <;> simp [hc, ih]

private theorem dropWhile_isNameChar_append_slash (cs ds : List Char) :
    (cs ++ '/' :: ds).dropWhile isNameChar = cs.dropWhile isNameChar ++ '/' :: ds := by
  have hs : isNameChar '/' = false := by decide
  induction cs with
  | nil => simp [hs]
  | cons c cs ih => by_cases hc : isNameChar c = true <;> simp [hc, ih]

/-- A slash stands for itself at the beginning of a template. -/
theorem pieces_slash (cs : List Char) : pieces ('/' :: cs) = .char '/' :: pieces cs := by
  cases cs with
  | nil => simp [pieces]
  | cons c cs => rw [pieces, if_neg (by simp)]

/-- A slash belongs to no hole: a template is cut into pieces on both sides of it independently. -/
theorem pieces_append_slash (cs ds : List Char) :
    pieces (cs ++ '/' :: ds) = pieces cs ++ .char '/' :: pieces ds := by
  induction cs using pieces.induct with
  | case1 => rw [List.nil_append, pieces_slash, pieces, List.nil_append]
  | case2 c =>
    have hs : isNameStart '/' = false := by decide
    have hc : pieces (c :: '/' :: ds) = .char c :: pieces ('/' :: ds) := by
      rw [pieces, if_neg (by simp [hs])]
    have hone : pieces [c] = [.char c] := by simp [pieces]
    rw [List.singleton_append, hc, pieces_slash, hone, List.singleton_append]
  | case3 m c cs hm ih =>
    rw [List.cons_append, List.cons_append, pieces, if_pos hm, pieces, if_pos hm,
      takeWhile_isNameChar_append_slash, dropWhile_isNameChar_append_slash, ih, List.cons_append]
  | case4 m c cs hm ih =>
    rw [List.cons_append, List.cons_append, pieces, if_neg hm, pieces, if_neg hm,
      ← List.cons_append, ih]
    rfl

/-- Holes stand on both sides of a slash that is put between two texts. -/
theorem tokens_append_slash (front back : String) :
    tokens (front ++ "/" ++ back) = tokens front ++ tokens back := by
  rw [tokens, tokens, tokens, String.toList_append, String.toList_append,
    show "/".toList = ['/'] from rfl, List.append_assoc, List.singleton_append,
      pieces_append_slash, holes_append]
  rfl

/-- A text that begins with a slash keeps its holes behind another one. -/
theorem tokens_append_rooted {own : String} (h : own.toList.head? = some '/') (base : String) :
    tokens (base ++ own) = tokens base ++ tokens own := by
  obtain ⟨cs, hcs⟩ := List.head?_eq_some_iff.mp h
  rw [tokens, tokens, tokens, String.toList_append, hcs, pieces_append_slash, pieces_slash,
    holes_append]

/-- The holes of a joined template are those of the base path, then those of the own path. -/
theorem tokens_join (base own : String) : tokens (join base own) = tokens base ++ tokens own := by
  have hempty : tokens "" = [] := by simp [tokens, pieces, holes]
  unfold join
  split
  next ho =>
    obtain rfl : own = "" := by simpa using ho
    rw [hempty, List.append_nil]
  split
  next hb =>
    obtain rfl : base = "" := by simpa using hb
    rw [hempty, List.nil_append]
  split
  next hrooted => exact tokens_append_rooted hrooted base
  next => exact tokens_append_slash base own

/-- Some items without those of a class at both ends. -/
def trimBoth (q : α → Bool) (l : List α) : List α := ((l.dropWhile q).reverse.dropWhile q).reverse

/-- A written list begins with slashes where its items are slashes. -/
theorem dropWhile_flatMap {q : α → Bool} {f : α → List Char} (hq : ∀ a, q a = true → f a = ['/'])
    {l : List α} (hn : ∀ a ∈ l, q a = false → f a ≠ [] ∧ '/' ∉ f a) :
    (l.flatMap f).dropWhile (· = '/') = (l.dropWhile q).flatMap f := by
  induction l with
  | nil => rfl
  | cons a l ih =>
    by_cases ha : q a = true
    · rw [List.flatMap_cons, hq a ha, List.dropWhile_cons_of_pos ha]
      simpa using ih fun b hb => hn b (List.mem_cons_of_mem _ hb)
    · obtain ⟨hne, hns⟩ := hn a List.mem_cons_self (by simpa using ha)
      obtain ⟨c, cs, he⟩ := List.exists_cons_of_ne_nil hne
      have hc : c ≠ '/' := by
        rintro rfl
        exact hns (he ▸ List.mem_cons_self)
      rw [List.dropWhile_cons_of_neg ha, List.flatMap_cons, he, List.cons_append,
        List.dropWhile_cons_of_neg (by simpa using hc)]

/-- A written list has slashes at its ends where its items are slashes. -/
theorem trim_flatMap {q : α → Bool} {f : α → List Char} (hq : ∀ a, q a = true → f a = ['/'])
    {l : List α} (hn : ∀ a ∈ l, q a = false → f a ≠ [] ∧ '/' ∉ f a) :
    Text.trim (· = '/') (l.flatMap f) = (trimBoth q l).flatMap f := by
  have hq' : ∀ a, q a = true → (List.reverse ∘ f) a = ['/'] := fun a ha => by
    rw [Function.comp_apply, hq a ha, List.reverse_singleton]
  have hn' : ∀ a ∈ (l.dropWhile q).reverse, q a = false →
      (List.reverse ∘ f) a ≠ [] ∧ '/' ∉ (List.reverse ∘ f) a := fun a ha hqa => by
    have hm := (List.dropWhile_sublist q).mem (List.mem_reverse.mp ha)
    simpa using hn a hm hqa
  rw [Text.trim, Text.trimStart, Text.trimEnd, dropWhile_flatMap hq hn, List.reverse_flatMap,
    dropWhile_flatMap hq' hn', trimBoth, List.reverse_flatMap, Function.comp_def]
  simp

end Template

end RestContract
