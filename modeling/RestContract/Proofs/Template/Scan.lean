import RestContract.Proofs.Template.Overlap

/-!
# Scanning a template

A template is scanned for its holes from the left, each name as long as possible. So no hole is
left among the literal characters, and there is only one way to cut a template like this. Between
two holes, before the first and behind the last one stand the literal texts of the template: with
other names between them they are a template that differs in names only.
-/

namespace RestContract

/-- Whether the text of a piece ends before a character: a name is not continued by it, and a colon
makes no hole with it. -/
def Piece.endsBefore (p : Piece) (d : Char) : Prop :=
  match p with
  | .char c => ¬(c = ':' ∧ Template.isNameStart d = true)
  | .hole _ => Template.isNameChar d = false

/-- Pieces that differ in the name of a hole at most. -/
inductive Piece.Alike : Piece → Piece → Prop where
  /-- A character is like itself. -/
  | char (c : Char) : Alike (.char c) (.char c)
  /-- Any two holes are alike. -/
  | hole (name other : String) : Alike (.hole name) (.hole other)

/-- A piece that is a hole has a name. -/
def Piece.IsNamed : Piece → Prop
  | .char _ => True
  | .hole name => Template.IsName name

namespace Template

/-- Some pieces are cut as a scan from the left cuts them. -/
def Scanned : List Piece → Prop
  | [] => True
  | p :: ps => p.IsNamed ∧ (∀ d, (spread mark ps).head? = some d → p.endsBefore d) ∧ Scanned ps

/-- Pieces are cut as a scan cuts them. -/
theorem scanned_pieces (cs : List Char) : Scanned (pieces cs) := by
  induction cs using pieces.induct with
  | case1 =>
    rw [pieces]
    trivial
  | case2 c =>
    rw [pieces]
    refine ⟨trivial, fun d hd => ?_, trivial⟩
    cases hd
  | case3 m c cs hm ih =>
    have hstart : isNameStart c = true := (Bool.and_eq_true_iff.mp hm).2
    rw [pieces, if_pos hm]
    refine ⟨⟨c, _, String.toList_ofList, hstart, List.all_takeWhile⟩, fun d hd => ?_, ih⟩
    rw [spread_mark_pieces] at hd
    have hnot := List.head?_dropWhile_not isNameChar cs
    rw [hd] at hnot
    exact hnot
  | case4 m c cs hm ih =>
    rw [pieces, if_neg hm]
    refine ⟨trivial, fun d hd => ?_, ih⟩
    rw [spread_mark_pieces, List.head?_cons, Option.some.injEq] at hd
    subst hd
    rintro ⟨hcolon, hstart⟩
    exact hm (by simp [hcolon, hstart])

private theorem spread_mark_eq_nil {ps : List Piece} : spread mark ps = [] ↔ ps = [] := by
  cases ps with
  | nil => simp
  | cons p ps => cases p <;> simp [mark]

/-- A scan finds the pieces that are cut as it cuts them. -/
theorem pieces_spread_mark {ps : List Piece} (h : Scanned ps) : pieces (spread mark ps) = ps := by
  induction ps with
  | nil => simp [pieces]
  | cons p ps ih =>
    obtain ⟨hnamed, hends, hrest⟩ := h
    cases p with
    | char c =>
      cases htext : spread mark ps with
      | nil =>
        rw [spread_mark_eq_nil.mp htext]
        simp [pieces]
      | cons d ds =>
        have hno : ¬(decide (c = ':') && isNameStart d) = true := by
          have hchar := hends d (by rw [htext]; rfl)
          simpa [Piece.endsBefore] using hchar
        rw [spread_char, htext, pieces, if_neg hno, ← htext, ih hrest]
    | hole name =>
      obtain ⟨c, cs, hname, hstart, hall⟩ := hnamed
      have hyes : (decide (':' = ':') && isNameStart c) = true := by simp [hstart]
      have hstop : ∀ d, (spread mark ps).head? = some d → isNameChar d = false := hends
      obtain ⟨htake, hdrop⟩ : (spread mark ps).takeWhile isNameChar = [] ∧
          (spread mark ps).dropWhile isNameChar = spread mark ps := by
        cases htext : spread mark ps with
        | nil => exact ⟨rfl, rfl⟩
        | cons d ds =>
          have hd : isNameChar d = false := hstop d (by rw [htext]; rfl)
          simp [hd]
      rw [spread_hole, mark, hname, List.cons_append, List.cons_append, pieces, if_pos hyes,
        List.takeWhile_append_of_pos (List.all_eq_true.mp hall), htake, List.append_nil,
        List.dropWhile_append_of_pos (List.all_eq_true.mp hall), hdrop, ih hrest, ← hname,
        String.ofList_toList]

/-- Pieces are the same without the names of their holes when they are alike one after the other. -/
theorem skeleton_eq_iff {ps qs : List Piece} :
    skeleton ps = skeleton qs ↔ List.Forall₂ Piece.Alike ps qs := by
  rw [skeleton, skeleton, ← List.forall₂_eq_eq_eq, List.forall₂_map_left_iff,
    List.forall₂_map_right_iff]
  constructor
  · refine List.Forall₂.imp fun p q h => ?_
    cases p with
    | char c =>
      cases q with
      | char d =>
        obtain rfl := Option.some.inj h
        exact .char c
      | hole name => cases h
    | hole name =>
      cases q with
      | char d => cases h
      | hole other => exact .hole name other
  · refine List.Forall₂.imp fun p q h => ?_
    cases h with
    | char c => rfl
    | hole name other => rfl

private theorem head?_spread_mark {ps qs : List Piece} (h : List.Forall₂ Piece.Alike ps qs) :
    (spread mark ps).head? = (spread mark qs).head? := by
  cases h with
  | nil => rfl
  | cons hpq _ => cases hpq <;> rfl

/-- Pieces with other names are cut as a scan cuts them, too. -/
theorem Scanned.of_alike {ps qs : List Piece} (h : Scanned ps) (hs : List.Forall₂ Piece.Alike ps qs)
    (hn : ∀ name ∈ holes qs, IsName name) : Scanned qs := by
  induction hs with
  | nil => trivial
  | cons hpq hrest ih =>
    obtain ⟨-, hends, hps⟩ := h
    rw [head?_spread_mark hrest] at hends
    cases hpq with
    | char c => exact ⟨trivial, hends, ih hps hn⟩
    | hole name other =>
      exact ⟨hn other List.mem_cons_self, hends,
        ih hps fun name hname => hn name (List.mem_cons_of_mem _ hname)⟩

/-- The literal texts of a template: before the first hole, between any two and behind the last. -/
def literals : List Piece → List (List Char)
  | [] => [[]]
  | .char c :: ps => (literals ps).modifyHead (c :: ·)
  | .hole _ :: ps => [] :: literals ps

/-- Texts with others between them. -/
def weave : List (List Char) → List (List Char) → List Char
  | text :: rest, between :: others => text ++ between ++ weave rest others
  | texts, _ => texts.flatten

private theorem exists_literals_eq (ps : List Piece) :
    ∃ first rest, literals ps = first :: rest ∧ rest.length = (holes ps).length := by
  induction ps with
  | nil => exact ⟨[], [], rfl, rfl⟩
  | cons p ps ih =>
    obtain ⟨first, rest, he, hlen⟩ := ih
    cases p with
    | char c => exact ⟨c :: first, rest, by rw [literals, he, List.modifyHead_cons], hlen⟩
    | hole name => exact ⟨[], literals ps, rfl, by rw [he, List.length_cons, hlen]; rfl⟩

/-- A character is the first of the text before the first hole. -/
theorem weave_literals_char (c : Char) (ps : List Piece) (texts : List (List Char)) :
    weave (literals (.char c :: ps)) texts = c :: weave (literals ps) texts := by
  obtain ⟨first, rest, he, -⟩ := exists_literals_eq ps
  rw [literals, he, List.modifyHead_cons]
  cases texts <;> rfl

/-- The text in a hole stands before what follows. -/
theorem weave_literals_hole (name : String) (ps : List Piece) (text : List Char)
    (others : List (List Char)) :
    weave (literals (.hole name :: ps)) (text :: others) = text ++ weave (literals ps) others := rfl

/-- The names of a template between its literal texts are the template. -/
theorem weave_literals_marks (ps : List Piece) :
    weave (literals ps) ((holes ps).map mark) = spread mark ps := by
  induction ps with
  | nil => rfl
  | cons p ps ih =>
    cases p with
    | char c =>
      rw [weave_literals_char, spread_char, ← ih]
      rfl
    | hole name =>
      rw [spread_hole, ← ih]
      rfl

private theorem literals_of_alike {ps qs : List Piece} (h : List.Forall₂ Piece.Alike ps qs) :
    literals ps = literals qs := by
  induction h with
  | nil => rfl
  | cons hpq _ ih => cases hpq <;> rw [literals, literals, ih]

/-- There may be other names in the holes. -/
theorem exists_alike {ps : List Piece} {names : List String}
    (h : names.length = (holes ps).length) :
    ∃ qs, List.Forall₂ Piece.Alike ps qs ∧ holes qs = names := by
  induction ps generalizing names with
  | nil => exact ⟨[], .nil, (List.eq_nil_of_length_eq_zero h).symm⟩
  | cons p ps ih =>
    cases p with
    | char c =>
      obtain ⟨qs, hs, rfl⟩ := ih h
      exact ⟨.char c :: qs, .cons (.char c) hs, rfl⟩
    | hole name =>
      cases names with
      | nil => cases h
      | cons other names =>
        obtain ⟨qs, hs, rfl⟩ := ih (Nat.succ.inj h)
        exact ⟨.hole other :: qs, .cons (.hole name other) hs, rfl⟩

/-- A template is another one, both normalized, with other names in its holes. -/
def Renames (s t : String) : Prop :=
  ∃ names : List String, names.length = (holes (pattern s)).length ∧ (∀ name ∈ names, IsName name) ∧
    (normalize t).toList = weave (literals (pattern s)) (names.map mark)

/-- Templates are the same up to names exactly when their pieces are the same without the names. -/
theorem renames_iff {s t : String} :
    Renames s t ↔ skeleton (pattern s) = skeleton (pattern t) := by
  rw [skeleton_eq_iff]
  constructor
  · rintro ⟨names, hlength, hnames, ht⟩
    obtain ⟨qs, hs, rfl⟩ := exists_alike hlength
    have hscanned : Scanned qs := (scanned_pieces _).of_alike hs hnames
    rw [literals_of_alike hs, weave_literals_marks] at ht
    have hpieces : pattern t = qs := by rw [pattern, ht, pieces_spread_mark hscanned]
    rwa [hpieces]
  · intro hs
    refine ⟨holes (pattern t), ?_, fun name hname => isName_of_hole_mem (mem_holes.mp hname), ?_⟩
    · rw [length_holes, length_holes, skeleton_eq_iff.mpr hs]
    · rw [literals_of_alike hs, weave_literals_marks, pattern, spread_mark_pieces]

end Template
end RestContract
