import RestContract.Proofs.Template.Pieces

/-!
# Filling the holes of a template

When every hole fills a whole segment, a path made by putting texts without slashes into
the holes matches the template in one way only, and the match gives back the texts.
Normalizing such a path removes exactly the slashes that normalizing the template removes.
-/

namespace RestContract

/-- Whether a piece is a hole. -/
def Piece.isHole : Piece → Bool
  | .char _ => false
  | .hole _ => true

/-- Whether a piece may stand before another one: a hole has only slashes beside it. -/
def Piece.mayPrecede (p q : Piece) : Bool := (!q.isHole || p.isSlash) && (!p.isHole || q.isSlash)

namespace Template

/-- Every hole fills a whole segment: nothing or a slash stands on either side of it. -/
def Segmented (ps : List Piece) : Prop :=
  ∀ before name after, ps = before ++ .hole name :: after →
    (before = [] ∨ before.getLast? = some (.char '/')) ∧
    (after = [] ∨ after.head? = some (.char '/'))

/-- A text that can fill a segment. -/
def FillsSegment (cs : List Char) : Prop := cs ≠ [] ∧ '/' ∉ cs

/-- What is left of a segmented template behind a beginning of it is segmented. -/
theorem Segmented.of_append {front ps : List Piece} (h : Segmented (front ++ ps)) :
    Segmented ps := by
  intro before name after he
  obtain ⟨hb, ha⟩ := h (front ++ before) name after (by rw [he, List.append_assoc])
  refine ⟨?_, ha⟩
  cases before with
  | nil => exact Or.inl rfl
  | cons p before =>
    rcases hb with hb | hb
    · simp at hb
    · right
      rw [List.getLast?_append, List.getLast?_cons] at hb
      simpa [List.getLast?_cons] using hb

/-- What follows the first piece of a segmented template is segmented. -/
theorem Segmented.tail {p : Piece} {ps : List Piece} (h : Segmented (p :: ps)) : Segmented ps :=
  Segmented.of_append (show Segmented ([p] ++ ps) from h)

private theorem Segmented.left_of_append {ps back : List Piece} (h : Segmented (ps ++ back)) :
    Segmented ps := by
  intro before name after he
  obtain ⟨hb, ha⟩ := h before name (after ++ back) (by rw [he, List.append_assoc, List.cons_append])
  refine ⟨hb, ?_⟩
  cases after with
  | nil => exact Or.inl rfl
  | cons p after => exact Or.inr (by simpa using ha)

/-- What follows the first hole of a segmented template is nothing or begins with a slash. -/
theorem Segmented.after_hole {name : String} {ps : List Piece} (h : Segmented (.hole name :: ps)) :
    ps = [] ∨ ps.head? = some (.char '/') := (h [] name ps rfl).2

/-- A slash may be put before a segmented template. -/
theorem Segmented.slash_cons {ps : List Piece} (h : Segmented ps) :
    Segmented (.char '/' :: ps) := by
  intro before name after he
  cases before with
  | nil => simp at he
  | cons p before =>
    obtain ⟨rfl, ht⟩ := List.cons.inj he
    obtain ⟨hb, ha⟩ := h before name after ht
    refine ⟨Or.inr ?_, ha⟩
    rcases hb with rfl | hb
    · rfl
    · rw [List.getLast?_cons, hb, Option.getD_some]

/-- Whether holes fill segments shows in neighbouring pieces. -/
theorem segmented_cons_cons {p q : Piece} {ps : List Piece} :
    Segmented (p :: q :: ps) ↔ p.mayPrecede q = true ∧ Segmented (q :: ps) := by
  constructor
  · intro h
    refine ⟨?_, h.tail⟩
    rw [Piece.mayPrecede, Bool.and_eq_true]
    constructor
    · cases q with
      | char c => rfl
      | hole name => simpa [Piece.isHole, Piece.isSlash] using (h [p] name ps rfl).1
    · cases p with
      | char c => rfl
      | hole name => simpa [Piece.isHole, Piece.isSlash] using (h [] name (q :: ps) rfl).2
  · rintro ⟨hpq, h⟩ before name after he
    rw [Piece.mayPrecede, Bool.and_eq_true] at hpq
    cases before with
    | nil =>
      obtain ⟨rfl, rfl⟩ := List.cons.inj he
      simpa [Piece.isHole, Piece.isSlash] using hpq.2
    | cons p' before =>
      obtain ⟨rfl, ht⟩ := List.cons.inj he
      obtain ⟨hb, ha⟩ := h before name after ht
      refine ⟨Or.inr ?_, ha⟩
      cases before with
      | nil =>
        obtain ⟨rfl, -⟩ := List.cons.inj ht
        simpa [Piece.isHole, Piece.isSlash] using hpq.1
      | cons b before => simpa [List.getLast?_cons] using hb

/-- Holes fill segments when every piece may precede the next one. -/
theorem segmented_iff {ps : List Piece} :
    Segmented ps ↔ ps.IsChain fun p q => p.mayPrecede q = true := by
  induction ps with
  | nil => exact iff_of_true (fun before name after he => by simp at he) .nil
  | cons p ps ih =>
    cases ps with
    | nil =>
      refine iff_of_true (fun before name after he => ?_) (.singleton p)
      cases before with
      | nil => exact ⟨Or.inl rfl, Or.inl (List.cons.inj he).2.symm⟩
      | cons b before => simp at he
    | cons q ps => rw [segmented_cons_cons, ih, List.isChain_cons_cons]

instance (ps : List Piece) : Decidable (Segmented ps) := decidable_of_iff _ segmented_iff.symm

/-- Some items at the ends of a list are all that trimming removes. -/
theorem exists_append_trimBoth (q : α → Bool) (l : List α) :
    ∃ front back, l = front ++ trimBoth q l ++ back ∧ (∀ a ∈ front, q a = true) ∧
      ∀ a ∈ back, q a = true := by
  refine ⟨l.takeWhile q, ((l.dropWhile q).reverse.takeWhile q).reverse, ?_, ?_, ?_⟩
  · rw [trimBoth, List.append_assoc, ← List.reverse_append, List.takeWhile_append_dropWhile,
      List.reverse_reverse, List.takeWhile_append_dropWhile]
  · exact fun a ha => List.all_eq_true.mp List.all_takeWhile a ha
  · exact fun a ha => List.all_eq_true.mp List.all_takeWhile a (List.mem_reverse.mp ha)

private theorem dropWhile_isSlash_pieces {c : Char} (h : c ≠ '/') (cs : List Char) :
    (pieces (c :: cs)).dropWhile Piece.isSlash = pieces (c :: cs) := by
  cases cs with
  | nil => simp [pieces, h]
  | cons d cs =>
    rw [pieces]
    split <;> simp [h]

private theorem pieces_trimStart (cs : List Char) :
    pieces (Text.trimStart (· = '/') cs) = (pieces cs).dropWhile Piece.isSlash := by
  induction cs with
  | nil => simp [Text.trimStart, pieces]
  | cons c cs ih =>
    by_cases h : c = '/'
    · subst h
      rw [pieces_slash]
      simpa [Text.trimStart] using ih
    · rw [dropWhile_isSlash_pieces h, Text.trimStart, List.dropWhile_cons_of_neg (by simpa using h)]

private theorem getLast?_pieces (cs : List Char) (h : (pieces cs).getLast? = some (.char '/')) :
    cs.getLast? = some '/' := by
  obtain ⟨ps, hp⟩ := List.getLast?_eq_some_iff.mp h
  have hs := spread_mark_pieces cs
  rw [hp] at hs
  rw [← hs]
  simp [spread, Piece.fill]

/-- Trailing slashes of a template are trailing slashes of its pieces. -/
theorem pieces_trimEnd (cs : List Char) :
    pieces (Text.trimEnd (· = '/') cs) = ((pieces cs).reverse.dropWhile Piece.isSlash).reverse := by
  induction cs using List.reverseRecOn with
  | nil => simp [Text.trimEnd, pieces]
  | append_singleton cs c ih =>
    by_cases h : c = '/'
    · subst h
      rw [pieces_append_slash, pieces]
      simpa [Text.trimEnd] using ih
    · have hlast : (pieces (cs ++ [c])).getLast? ≠ some (.char '/') := fun hl => by
        simpa [h] using getLast?_pieces _ hl
      have hkeep : Text.trimEnd (· = '/') (cs ++ [c]) = cs ++ [c] := by simp [Text.trimEnd, h]
      rw [hkeep]
      cases hr : (pieces (cs ++ [c])).reverse with
      | nil => rw [List.dropWhile_nil, ← hr, List.reverse_reverse]
      | cons p rest =>
        have hp : ¬p.isSlash = true := by
          rintro hp
          rw [List.getLast?_eq_head?_reverse, hr, List.head?_cons] at hlast
          exact hlast (congrArg some (of_decide_eq_true hp))
        rw [List.dropWhile_cons_of_neg hp, ← hr, List.reverse_reverse]

/-- The pattern of a template is its pieces behind one slash and without slashes at their ends. -/
theorem pattern_eq (template : String) :
    pattern template = .char '/' :: trimBoth Piece.isSlash (pieces template.toList) := by
  rw [pattern, normalize, String.toList_ofList, pieces_slash, Text.trim, pieces_trimEnd,
    pieces_trimStart, trimBoth]

/-- Normalizing keeps a template segmented. -/
theorem segmented_pattern {template : String} (h : Segmented (pieces template.toList)) :
    Segmented (pattern template) := by
  obtain ⟨front, back, he, -, -⟩ := exists_append_trimBoth Piece.isSlash (pieces template.toList)
  rw [he] at h
  rw [pattern_eq]
  exact h.left_of_append.of_append.slash_cons

/-- Normalizing takes no hole from a template. -/
theorem holes_pattern (template : String) : holes (pattern template) = tokens template := by
  obtain ⟨front, back, he, hf, hb⟩ := exists_append_trimBoth Piece.isSlash (pieces template.toList)
  have hnone : ∀ ps : List Piece, (∀ p ∈ ps, p.isSlash = true) → holes ps = [] := fun ps h => by
    refine List.filterMap_eq_nil_iff.mpr fun p hp => ?_
    rw [of_decide_eq_true (h p hp)]
  rw [tokens, he, holes_append, holes_append, hnone front hf, hnone back hb, pattern_eq]
  simp [holes]

/-- Normalizing a path that fills a template is filling the normalized template. -/
theorem normalize_spread {template : String} {value : String → List Char}
    (hv : ∀ name ∈ tokens template, FillsSegment (value name)) :
    (normalize (String.ofList (spread value (pieces template.toList)))).toList =
      spread value (pattern template) := by
  have hslash : ∀ p : Piece, p.isSlash = true → p.fill value = ['/'] := fun p hp => by
    rw [of_decide_eq_true hp]
    rfl
  have hother : ∀ p ∈ pieces template.toList, p.isSlash = false → p.fill value ≠ [] ∧
    '/' ∉ p.fill value := by
    intro p hp hs
    cases p with
    | char c => simpa [Piece.fill, eq_comm] using hs
    | hole name => exact hv name (mem_holes.mpr hp)
  rw [normalize, String.toList_ofList, String.toList_ofList, pattern_eq, spread_char, spread,
    trim_flatMap hslash hother, spread]

/-- The first way to cut a segment off a path takes all of it. -/
theorem segmentCuts_append {cs rest : List Char} (hc : FillsSegment cs)
    (hr : rest = [] ∨ rest.head? = some '/') :
    ∃ more, segmentCuts (cs ++ rest) = (cs, rest) :: more := by
  obtain ⟨hne, hs⟩ := hc
  induction cs with
  | nil => exact absurd rfl hne
  | cons c cs ih =>
    simp only [List.mem_cons, not_or] at hs
    rw [List.cons_append, segmentCuts, if_neg (Ne.symm hs.1)]
    cases cs with
    | nil =>
      have hend : segmentCuts rest = [] := by
        rcases hr with rfl | hr
        · rfl
        · obtain ⟨ds, rfl⟩ := List.head?_eq_some_iff.mp hr
          simp [segmentCuts]
      exact ⟨[], by rw [List.nil_append, hend, List.map_nil, List.nil_append]⟩
    | cons d cs =>
      obtain ⟨more, he⟩ := ih (List.cons_ne_nil d cs) hs.2
      exact ⟨_, by rw [he, List.map_cons, List.cons_append]⟩

/-- The beginning of a filled template is a slash where the template has one. -/
theorem spread_ends_segment (value : String → List Char) {ps : List Piece}
    (h : ps = [] ∨ ps.head? = some (.char '/')) :
    spread value ps = [] ∨ (spread value ps).head? = some '/' := by
  rcases h with rfl | h
  · exact Or.inl rfl
  · obtain ⟨qs, rfl⟩ := List.head?_eq_some_iff.mp h
    exact Or.inr rfl

/-- A filled template matches, and the match finds the texts that were put into the holes. -/
theorem fill?_spread {value : String → List Char} {ps : List Piece} (h : Segmented ps)
    (hv : ∀ name ∈ holes ps, FillsSegment (value name)) :
    fill? ps (spread value ps) = some ((holes ps).map value) := by
  induction ps with
  | nil => rfl
  | cons p ps ih =>
    cases p with
    | char c =>
      rw [spread_char, fill?, if_pos rfl, ih h.tail hv]
      rfl
    | hole name =>
      obtain ⟨more, hcuts⟩ := segmentCuts_append (hv name List.mem_cons_self)
        (spread_ends_segment value h.after_hole)
      have hrest := ih h.tail fun other ho => hv other (List.mem_cons_of_mem _ ho)
      rw [spread_hole, fill?, hcuts, List.findSome?_cons, hrest]
      rfl

end Template

end RestContract
