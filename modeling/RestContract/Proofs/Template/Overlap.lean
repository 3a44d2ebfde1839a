import RestContract.Proofs.Template.Filling

/-!
# Two templates that match one path

A path is made by putting one long text of a fresh letter into all holes of a template.
Another template that matches this path has a hole wherever the first one has: no literal
segment is as long, and the letter stands in no tail. If it has no further hole, then the
two templates agree in every literal character as far as the second one goes, and what
is left of the first one may follow a complete match.
-/

namespace RestContract.Template

/-- A long text that fills a hole. -/
def filler (k : Nat) : List Char := List.replicate k 'a'

/-- A long text fills a segment. -/
theorem filler_fillsSegment {k : Nat} (hk : 0 < k) : FillsSegment (filler k) := by
  constructor
  · rw [filler, ne_eq, List.replicate_eq_nil_iff]
    omega
  · intro hm
    exact absurd (List.eq_of_mem_replicate hm) (by decide)

/-- The number of holes shows without their names. -/
theorem length_holes (ps : List Piece) :
    (holes ps).length = ((skeleton ps).filter Option.isNone).length := by
  induction ps with
  | nil => rfl
  | cons p ps ih =>
    cases p with
    | char c => exact ih
    | hole name => exact congrArg (· + 1) ih

/-- The number of literal characters shows without the names of the holes. -/
theorem staticLength_eq (ps : List Piece) :
    staticLength ps = ((skeleton ps).filter Option.isSome).length := by
  induction ps with
  | nil => rfl
  | cons p ps ih =>
    cases p with
    | char c => exact congrArg (· + 1) ih
    | hole name => exact ih

/-- A hole has a slash before it, so none follows any other character. -/
theorem Segmented.head?_ne_hole {c : Char} {ps : List Piece} (h : Segmented (.char c :: ps))
    (hc : c ≠ '/') (name : String) : ps.head? ≠ some (.hole name) := by
  intro hn
  obtain ⟨after, rfl⟩ := List.head?_eq_some_iff.mp hn
  have hbefore := (h [.char c] name after rfl).1
  simp [hc] at hbefore

/-- No template without a hole at its beginning matches a text longer than itself of the letter of
fillers. -/
theorem fill?_filler_append {qs : List Piece} (h : Segmented qs)
    (hstart : ∀ name, qs.head? ≠ some (.hole name))
    {k : Nat} (hk : qs.length < k) (rest : List Char) : fill? qs (filler k ++ rest) = none := by
  induction qs generalizing k with
  | nil =>
    obtain ⟨j, rfl⟩ := Nat.exists_eq_add_of_lt hk
    simp [filler, List.replicate_succ, fill?, isTail]
  | cons q qs ih =>
    obtain ⟨j, rfl⟩ : ∃ j, k = j + 1 := ⟨k - 1, by omega⟩
    cases q with
    | hole name => exact absurd rfl (hstart name)
    | char c =>
      rw [filler, List.replicate_succ, List.cons_append, fill?]
      by_cases hc : c = 'a'
      · rw [if_pos hc]
        apply ih h.tail
        · apply h.head?_ne_hole
          rw [hc]
          decide
        · simpa using hk
      · rw [if_neg hc]

/-- A cut takes characters other than slashes from the beginning, at least one. -/
theorem segmentCuts_sound {cs : List Char} {cut : List Char × List Char}
    (h : cut ∈ segmentCuts cs) :
    cs = cut.1 ++ cut.2 ∧ FillsSegment cut.1 := by
  induction cs generalizing cut with
  | nil => cases h
  | cons c cs ih =>
    rw [segmentCuts] at h
    split at h
    · cases h
    next hc =>
      rcases List.mem_append.mp h with h | h
      · obtain ⟨rest, hr, rfl⟩ := List.mem_map.mp h
        obtain ⟨he, hne, hs⟩ := ih hr
        refine ⟨by rw [he]; rfl, List.cons_ne_nil _ _, ?_⟩
        rw [List.mem_cons, not_or]
        exact ⟨Ne.symm hc, hs⟩
      · rw [List.mem_singleton] at h
        rw [h]
        exact ⟨rfl, List.cons_ne_nil _ _, by simpa using Ne.symm hc⟩

/-- A template with a hole at its beginning matches when what follows the hole matches behind some
cut. -/
theorem exists_cut_of_fill? {name : String} {qs : List Piece} {cs : List Char}
    (h : (fill? (.hole name :: qs) cs).isSome = true) :
    ∃ text rest, cs = text ++ rest ∧ FillsSegment text ∧ (fill? qs rest).isSome = true := by
  rw [fill?] at h
  obtain ⟨texts, ht⟩ := Option.isSome_iff_exists.mp h
  obtain ⟨cut, hc, hcut⟩ := List.exists_of_findSome?_eq_some ht
  obtain ⟨others, ho, -⟩ := Option.map_eq_some_iff.mp hcut
  obtain ⟨he, hf⟩ := segmentCuts_sound hc
  exact ⟨cut.1, cut.2, he, hf, by rw [ho]; rfl⟩

/-- A template stands over another one when it has more holes, or when it agrees with a beginning of
the other one that is all but a tail. -/
def StandsOver (qs ps : List Piece) : Prop :=
  (holes ps).length < (holes qs).length ∨
    ∃ tail, isTail tail = true ∧ skeleton ps = skeleton qs ++ tail.map some

private theorem StandsOver.holes_le {qs ps : List Piece} (h : StandsOver qs ps) :
    (holes ps).length ≤ (holes qs).length := by
  rcases h with h | ⟨tail, -, he⟩
  · exact Nat.le_of_lt h
  · have hnone : (tail.map some).filter Option.isNone = [] := by simp
    apply Nat.le_of_eq
    rw [length_holes, length_holes, he, List.filter_append, hnone, List.append_nil]

private theorem notMem_of_isTail {cs : List Char} (h : isTail cs = true) : 'a' ∉ cs := by
  simp only [isTail, Bool.or_eq_true, decide_eq_true_eq] at h
  rcases h with ((rfl | rfl) | rfl) | rfl <;> decide

/-- A filled template without the letter of fillers has no holes. -/
theorem skeleton_of_notMem {k : Nat} (hk : 0 < k) {ps : List Piece}
    (h : 'a' ∉ spread (fun _ => filler k) ps) :
    skeleton ps = (spread (fun _ => filler k) ps).map some := by
  induction ps with
  | nil => rfl
  | cons p ps ih =>
    cases p with
    | char c =>
      rw [spread_char, List.mem_cons, not_or] at h
      exact congrArg (some c :: ·) (ih h.2)
    | hole name =>
      rw [spread_hole, List.mem_append, not_or] at h
      exact absurd (List.mem_replicate.mpr ⟨by omega, rfl⟩) h.1

/-- Characters other than slashes at the beginning of a filled template are literal where no hole
begins it. -/
theorem exists_back_of_spread {value : String → List Char} {ps : List Piece} (h : Segmented ps)
    (hstart : ∀ name, ps.head? ≠ some (.hole name)) {text rest : List Char} (hs : '/' ∉ text)
    (he : spread value ps = text ++ rest) :
    ∃ front back, ps = front ++ back ∧ holes front = [] ∧ rest = spread value back := by
  induction text generalizing ps with
  | nil => exact ⟨[], ps, rfl, rfl, he.symm⟩
  | cons t text ih =>
    rw [List.mem_cons, not_or] at hs
    cases ps with
    | nil => cases he
    | cons p ps =>
      cases p with
      | hole name => exact absurd rfl (hstart name)
      | char c =>
        rw [spread_char, List.cons_append] at he
        obtain ⟨rfl, hrest⟩ := List.cons.inj he
        obtain ⟨front, back, rfl, hf, hr⟩ := ih h.tail (h.head?_ne_hole (Ne.symm hs.1)) hs.2 hrest
        exact ⟨.char c :: front, back, rfl, hf, hr⟩

private theorem fill?_after_hole {qs : List Piece} (h : qs = [] ∨ qs.head? = some (.char '/'))
    (cs : List Char) :
    fill? qs ('a' :: cs) = none := by
  rcases h with rfl | h
  · simp [fill?, isTail]
  · obtain ⟨rest, rfl⟩ := List.head?_eq_some_iff.mp h
    rfl

/-- A hole that is matched against a filler, with a segment's end behind it, takes all of it. -/
theorem rest_eq_of_filler {qs : List Piece} (hq : qs = [] ∨ qs.head? = some (.char '/')) {k : Nat}
    {text rest behind : List Char} (hb : behind = [] ∨ behind.head? = some '/') (hs : '/' ∉ text)
    (he : filler k ++ behind = text ++ rest) (hfill : (fill? qs rest).isSome = true) :
    rest = behind := by
  rcases List.append_eq_append_iff.mp he with ⟨more, rfl, hmore⟩ | ⟨more, hmore, rfl⟩
  · cases more with
    | nil => exact hmore.symm
    | cons c more =>
      rcases hb with rfl | hb
      · cases hmore
      · rw [hmore, List.cons_append, List.head?_cons, Option.some.injEq] at hb
        exact absurd (List.mem_append_right _ (hb ▸ List.mem_cons_self)) hs
  · cases more with
    | nil => rfl
    | cons c more =>
      have hc : c = 'a' :=
        List.eq_of_mem_replicate (hmore ▸ List.mem_append_right _ List.mem_cons_self)
      rw [hc, List.cons_append, fill?_after_hole hq] at hfill
      cases hfill

/-- A template that matches what fills another one with long texts stands over that. -/
theorem standsOver_of_fill? {qs ps : List Piece} (hq : Segmented qs) (hp : Segmented ps) {k : Nat}
    (hk : qs.length < k) (h : (fill? qs (spread (fun _ => filler k) ps)).isSome = true) :
    StandsOver qs ps := by
  induction qs generalizing ps with
  | nil =>
    right
    have htail : isTail (spread (fun _ => filler k) ps) = true := by
      rw [fill?] at h
      split at h
      · assumption
      · cases h
    exact ⟨_, htail, skeleton_of_notMem hk (notMem_of_isTail htail)⟩
  | cons q qs ih =>
    have hlength : qs.length < k := by
      rw [List.length_cons] at hk
      omega
    cases q with
    | char c =>
      cases ps with
      | nil => cases h
      | cons p ps =>
        cases p with
        | char d =>
          rw [spread_char, fill?] at h
          split at h
          next hcd =>
            subst hcd
            rcases ih hq.tail hp.tail hlength h with hlt | ⟨tail, ht, he⟩
            · exact Or.inl hlt
            · exact Or.inr ⟨tail, ht, congrArg (some c :: ·) he⟩
          next => cases h
        | hole name =>
          have hstart : ∀ name, (Piece.char c :: qs).head? ≠ some (.hole name) := by simp
          rw [spread_hole, fill?_filler_append hq hstart hk] at h
          cases h
    | hole name =>
      obtain ⟨text, rest, he, ⟨hne, hs⟩, hfill⟩ := exists_cut_of_fill? h
      cases ps with
      | nil => exact absurd (List.append_eq_nil_iff.mp he.symm).1 hne
      | cons p ps =>
        cases p with
        | hole other =>
          have hrest :=
            rest_eq_of_filler hq.after_hole (spread_ends_segment _ hp.after_hole) hs he hfill
          rw [hrest] at hfill
          rcases ih hq.tail hp.tail hlength hfill with hlt | ⟨tail, ht, hskeleton⟩
          · exact Or.inl (Nat.succ_lt_succ hlt)
          · exact Or.inr ⟨tail, ht, congrArg (none :: ·) hskeleton⟩
        | char d =>
          have hstart : ∀ name, (Piece.char d :: ps).head? ≠ some (.hole name) := by simp
          obtain ⟨front, back, hsplit, hfront, hrest⟩ := exists_back_of_spread hp hstart hs he
          rw [hsplit] at hp ⊢
          rw [hrest] at hfill
          have hle := (ih hq.tail hp.of_append hlength hfill).holes_le
          left
          rw [holes_append, hfront, List.nil_append]
          exact Nat.lt_succ_of_le hle

end RestContract.Template
