import Mathlib
import RestContract.Proofs.Stream.Frames
import RestContract.Proofs.Template.Overlap

/-!
# The texts that match a template

Pieces spell a text when the text is made of their characters and of a text without slashes, not
empty, for each hole. Matching finds some way to spell the path, up to a tail, whenever there is
one. So a template whose paths all match a second one has no fewer pieces: filling its holes with
single characters leaves no less than that for the second template. And since no hole reaches
over a slash, the second template has a hole wherever a segment of the first one has any.
-/

namespace RestContract.Template

open Text (splitAt)

/-- A text is made of the characters among some pieces and of a filling for each hole. -/
inductive Spells : List Piece → List Char → Prop where
  | nil : Spells [] []
  | char {c : Char} {ps : List Piece} {cs : List Char} (rest : Spells ps cs) :
      Spells (.char c :: ps) (c :: cs)
  | hole {name : String} {ps : List Piece} {text cs : List Char} (fills : FillsSegment text)
      (rest : Spells ps cs) : Spells (.hole name :: ps) (text ++ cs)

/-- Pieces with a character first spell what begins with it. -/
theorem spells_char {c : Char} {ps : List Piece} {cs : List Char} :
    Spells (.char c :: ps) cs ↔ ∃ rest, cs = c :: rest ∧ Spells ps rest := by
  constructor
  · intro h
    cases h with
    | char rest => exact ⟨_, rfl, rest⟩
  · rintro ⟨rest, rfl, h⟩
    exact .char h

/-- Pieces with a hole first spell what begins with a filling. -/
theorem spells_hole {name : String} {ps : List Piece} {cs : List Char} :
    Spells (.hole name :: ps) cs ↔
      ∃ text rest, cs = text ++ rest ∧ FillsSegment text ∧ Spells ps rest := by
  constructor
  · intro h
    cases h with
    | hole fills rest => exact ⟨_, _, rfl, fills, rest⟩
  · rintro ⟨text, rest, rfl, fills, h⟩
    exact .hole fills h

/-- Characters spell themselves only. -/
theorem spells_chars {chars cs : List Char} : Spells (chars.map .char) cs ↔ cs = chars := by
  induction chars generalizing cs with
  | nil =>
    constructor
    · intro h
      cases h
      rfl
    · rintro rfl
      exact .nil
  | cons c chars ih =>
    rw [List.map_cons, spells_char]
    constructor
    · rintro ⟨rest, rfl, h⟩
      rw [ih.mp h]
    · rintro rfl
      exact ⟨chars, rfl, ih.mpr rfl⟩

/-- What two lists of pieces spell one behind the other. -/
theorem spells_append {ps qs : List Piece} {cs : List Char} :
    Spells (ps ++ qs) cs ↔ ∃ front back, cs = front ++ back ∧ Spells ps front ∧ Spells qs back := by
  induction ps generalizing cs with
  | nil =>
    constructor
    · exact fun h => ⟨[], cs, rfl, .nil, h⟩
    · rintro ⟨front, back, rfl, hfront, hback⟩
      cases hfront
      exact hback
  | cons p ps ih =>
    cases p with
    | char c =>
      rw [List.cons_append, spells_char]
      constructor
      · rintro ⟨rest, rfl, h⟩
        obtain ⟨front, back, rfl, hfront, hback⟩ := ih.mp h
        exact ⟨c :: front, back, rfl, .char hfront, hback⟩
      · rintro ⟨front, back, rfl, hfront, hback⟩
        obtain ⟨rest, rfl, hrest⟩ := spells_char.mp hfront
        exact ⟨rest ++ back, rfl, ih.mpr ⟨rest, back, rfl, hrest, hback⟩⟩
    | hole name =>
      rw [List.cons_append, spells_hole]
      constructor
      · rintro ⟨text, rest, rfl, fills, h⟩
        obtain ⟨front, back, rfl, hfront, hback⟩ := ih.mp h
        exact ⟨text ++ front, back, (List.append_assoc ..).symm, .hole fills hfront, hback⟩
      · rintro ⟨front, back, rfl, hfront, hback⟩
        obtain ⟨text, rest, rfl, fills, hrest⟩ := spells_hole.mp hfront
        exact ⟨text, rest ++ back, List.append_assoc .., fills,
          ih.mpr ⟨rest, back, rfl, hrest, hback⟩⟩

private theorem spells_spread {value : String → List Char} {ps : List Piece}
    (h : ∀ name ∈ holes ps, FillsSegment (value name)) : Spells ps (spread value ps) := by
  induction ps with
  | nil => exact .nil
  | cons p ps ih =>
    cases p with
    | char c => exact .char (ih h)
    | hole name =>
      exact .hole (h name List.mem_cons_self)
        (ih fun other ho => h other (List.mem_cons_of_mem _ ho))

/-- What is spelled is seen without the names of the holes. -/
theorem Spells.of_skeleton_eq {ps qs : List Piece} {cs : List Char} (h : Spells ps cs)
    (he : skeleton ps = skeleton qs) : Spells qs cs := by
  induction h generalizing qs with
  | nil =>
    obtain rfl : qs = [] := List.map_eq_nil_iff.mp he.symm
    exact .nil
  | char rest ih =>
    cases qs with
    | nil => cases he
    | cons q qs =>
      obtain ⟨hq, hqs⟩ := List.cons.inj he
      cases q with
      | char d =>
        obtain rfl := Option.some.inj hq
        exact .char (ih hqs)
      | hole name => cases hq
  | hole fills rest ih =>
    cases qs with
    | nil => cases he
    | cons q qs =>
      obtain ⟨hq, hqs⟩ := List.cons.inj he
      cases q with
      | char d => cases hq
      | hole name => exact .hole fills (ih hqs)

/-- A text has at least one character for every piece that spells it. -/
theorem Spells.length_le {ps : List Piece} {cs : List Char} (h : Spells ps cs) :
    ps.length ≤ cs.length := by
  induction h with
  | nil => exact le_rfl
  | char rest ih => simpa using ih
  | @hole name ps text cs fills rest ih =>
    have htext : 0 < text.length := List.length_pos_of_ne_nil fills.1
    rw [List.length_cons, List.length_append]
    omega

/-- Pieces without slashes spell what fills a segment. -/
theorem Spells.fillsSegment {ps : List Piece} {cs : List Char} (h : Spells ps cs) (hne : ps ≠ [])
    (hslash : .char '/' ∉ ps) : FillsSegment cs := by
  refine ⟨fun he => ?_, ?_⟩
  · have hle := h.length_le
    rw [he, List.length_nil, Nat.le_zero] at hle
    exact hne (List.eq_nil_of_length_eq_zero hle)
  · clear hne
    induction h with
    | nil => exact List.not_mem_nil
    | char rest ih =>
      rw [List.mem_cons, not_or] at hslash ⊢
      exact ⟨fun he => hslash.1 (congrArg Piece.char he), ih hslash.2⟩
    | hole fills rest ih =>
      rw [List.mem_append, not_or]
      exact ⟨fills.2, ih fun hm => hslash (List.mem_cons_of_mem _ hm)⟩

/-- Cuts take what fills a segment from the beginning, and every such text is a cut. -/
theorem mem_segmentCuts {cs : List Char} {cut : List Char × List Char} :
    cut ∈ segmentCuts cs ↔ cs = cut.1 ++ cut.2 ∧ FillsSegment cut.1 := by
  refine ⟨segmentCuts_sound, ?_⟩
  obtain ⟨text, rest⟩ := cut
  rintro ⟨rfl, hne, hslash⟩
  induction text with
  | nil => exact absurd rfl hne
  | cons c text ih =>
    rw [List.mem_cons, not_or] at hslash
    rw [List.cons_append, segmentCuts, if_neg (Ne.symm hslash.1), List.mem_append]
    cases text with
    | nil => exact .inr List.mem_cons_self
    | cons d text =>
      exact .inl (List.mem_map.mpr ⟨_, ih (List.cons_ne_nil _ _) hslash.2, rfl⟩)

/-- A path matches exactly when the pieces spell it, up to a tail. -/
theorem isSome_fill? {ps : List Piece} {cs : List Char} :
    (fill? ps cs).isSome = true ↔
      ∃ tail, isTail tail = true ∧ Spells (ps ++ tail.map .char) cs := by
  induction ps generalizing cs with
  | nil =>
    simp only [fill?, List.nil_append, spells_chars]
    split
    next h => exact iff_of_true rfl ⟨cs, h, rfl⟩
    next h =>
      refine iff_of_false Bool.false_ne_true ?_
      rintro ⟨tail, htail, rfl⟩
      exact h htail
  | cons p ps ih =>
    cases p with
    | char c =>
      simp only [List.cons_append, spells_char]
      cases cs with
      | nil => simp [fill?]
      | cons d cs =>
        rw [fill?]
        by_cases hc : c = d
        · rw [if_pos hc, ih, hc]
          simp
        · rw [if_neg hc]
          refine iff_of_false Bool.false_ne_true ?_
          rintro ⟨tail, -, rest, he, -⟩
          exact hc (List.cons.inj he).1.symm
    | hole name =>
      simp only [List.cons_append, spells_hole]
      constructor
      · intro h
        obtain ⟨text, rest, rfl, fills, hrest⟩ := exists_cut_of_fill? h
        obtain ⟨tail, htail, hspells⟩ := ih.mp hrest
        exact ⟨tail, htail, text, rest, rfl, fills, hspells⟩
      · rintro ⟨tail, htail, text, rest, rfl, fills, hspells⟩
        rw [fill?, List.findSome?_isSome_iff]
        refine ⟨(text, rest), mem_segmentCuts.mpr ⟨rfl, fills⟩, ?_⟩
        rw [Option.isSome_map]
        exact ih.mpr ⟨tail, htail, hspells⟩

/-- Every path that matches some pieces matches other ones. -/
def Within (ps qs : List Piece) : Prop :=
  ∀ cs, (fill? ps cs).isSome = true → (fill? qs cs).isSome = true

/-- Templates that differ in the names of their holes only are matched by the same paths. -/
theorem within_of_skeleton_eq {ps qs : List Piece} (h : skeleton ps = skeleton qs) :
    Within ps qs := by
  intro cs hcs
  obtain ⟨tail, htail, hspells⟩ := isSome_fill?.mp hcs
  have hall : skeleton (ps ++ tail.map .char) = skeleton (qs ++ tail.map .char) := by
    rw [skeleton, List.map_append, ← skeleton, h, skeleton, ← List.map_append, ← skeleton]
  exact isSome_fill?.mpr ⟨tail, htail, hspells.of_skeleton_eq hall⟩

/-- What lies within a template lies within one that this lies within. -/
theorem Within.trans {ps qs rs : List Piece} (h : Within ps qs) (h' : Within qs rs) :
    Within ps rs := fun cs hcs => h' cs (h cs hcs)

/-- A template lies within one with a hole in the place of some pieces of a segment. -/
theorem within_hole (front : List Piece) {run : List Piece} (back : List Piece) (name : String)
    (hne : run ≠ []) (hslash : .char '/' ∉ run) :
    Within (front ++ run ++ back) (front ++ .hole name :: back) := by
  intro cs hcs
  obtain ⟨tail, htail, hspells⟩ := isSome_fill?.mp hcs
  rw [List.append_assoc, List.append_assoc] at hspells
  obtain ⟨before, rest, rfl, hfront, hrest⟩ := spells_append.mp hspells
  obtain ⟨text, behind, rfl, hrun, hback⟩ := spells_append.mp hrest
  refine isSome_fill?.mpr ⟨tail, htail, ?_⟩
  rw [List.append_assoc]
  exact spells_append.mpr ⟨before, _, rfl, hfront, .hole (hrun.fillsSegment hne hslash) hback⟩

/-- Where one template lies within another one, the pieces of the other one and a tail spell every
filling. -/
theorem Within.exists_tail {ps qs : List Piece} (h : Within ps qs) {value : String → List Char}
    (hv : ∀ name ∈ holes ps, FillsSegment (value name)) :
    ∃ tail, isTail tail = true ∧ Spells (qs ++ tail.map .char) (spread value ps) := by
  refine isSome_fill?.mp (h _ (isSome_fill?.mpr ⟨[], rfl, ?_⟩))
  rw [List.map_nil, List.append_nil]
  exact spells_spread hv

/-- Single characters in the holes leave the number of pieces. -/
theorem length_spread_single (x : Char) (ps : List Piece) :
    (spread (fun _ => [x]) ps).length = ps.length := by
  rw [spread, List.length_flatMap]
  have hone : ps.map (fun p => (p.fill fun _ => [x]).length) = ps.map fun _ => 1 :=
    List.map_congr_left fun p _ => by cases p <;> rfl
  rw [hone, List.map_const', List.sum_replicate, smul_eq_mul, mul_one]

/-- A character other than a slash fills a segment. -/
theorem fillsSegment_single {x : Char} (hx : x ≠ '/') : FillsSegment [x] :=
  ⟨List.cons_ne_nil _ _, by simpa using hx.symm⟩

private theorem holes_append_chars (ps : List Piece) (tail : List Char) :
    holes (ps ++ tail.map .char) = holes ps := by
  have hnone : holes (tail.map .char) = [] := by
    induction tail with
    | nil => rfl
    | cons c tail ih => exact ih
  rw [holes_append, hnone, List.append_nil]

/-- Every piece is a character or a hole. -/
theorem staticLength_add_holes (ps : List Piece) :
    staticLength ps + (holes ps).length = ps.length := by
  induction ps with
  | nil => rfl
  | cons p ps ih =>
    cases p with
    | char c =>
      have hone : staticLength (.char c :: ps) = staticLength ps + 1 := rfl
      have hsame : holes (.char c :: ps) = holes ps := rfl
      rw [hone, hsame, List.length_cons]
      omega
    | hole name =>
      have hsame : staticLength (.hole name :: ps) = staticLength ps := rfl
      have hone : holes (.hole name :: ps) = name :: holes ps := rfl
      rw [hsame, hone, List.length_cons, List.length_cons]
      omega

/-- A template has no fewer pieces than one that it lies within. -/
theorem Within.length_le {ps qs : List Piece} (h : Within ps qs) : qs.length ≤ ps.length := by
  obtain ⟨tail, -, hspells⟩ := h.exists_tail fun _ _ => fillsSegment_single (x := 'a') (by decide)
  have hle := hspells.length_le
  rw [length_spread_single, List.length_append] at hle
  omega

/-- A hole covers every piece, a character only itself. -/
def CoveredBy (p q : Piece) : Prop := q.isHole = true ∨ p = q

/-- What begins with a hole and has a character for every piece has one for that hole. -/
theorem Spells.tail_of_hole {name : String} {qs : List Piece} {x : Char} {cs : List Char}
    (h : Spells (.hole name :: qs) (x :: cs)) (hlen : cs.length = qs.length) : Spells qs cs := by
  obtain ⟨text, rest, he, fills, hrest⟩ := spells_hole.mp h
  cases text with
  | nil => exact absurd rfl fills.1
  | cons y text =>
    have hle := hrest.length_le
    have hcs : cs = text ++ rest := (List.cons.inj he).2
    subst hcs
    have htext : text = [] := by
      rw [List.length_append] at hlen
      exact List.eq_nil_of_length_eq_zero (by omega)
    rw [htext]
    exact hrest

/-- Where as many pieces spell two fillings that agree in no hole, they cover the template piece by
piece. -/
theorem forall₂_coveredBy {x y : Char} (hxy : x ≠ y) {ps qs : List Piece}
    (hlen : ps.length = qs.length) (hx : Spells qs (spread (fun _ => [x]) ps))
    (hy : Spells qs (spread (fun _ => [y]) ps)) : List.Forall₂ CoveredBy ps qs := by
  induction ps generalizing qs with
  | nil =>
    obtain rfl : qs = [] := List.eq_nil_of_length_eq_zero hlen.symm
    exact .nil
  | cons p ps ih =>
    cases qs with
    | nil => cases hlen
    | cons q qs =>
      have hlen' : ps.length = qs.length := Nat.succ.inj hlen
      cases q with
      | hole name =>
        have hrest : ∀ z, Spells (.hole name :: qs) (spread (fun _ => [z]) (p :: ps)) →
            Spells qs (spread (fun _ => [z]) ps) := by
          intro z hz
          cases p <;> exact hz.tail_of_hole ((length_spread_single z ps).trans hlen')
        exact .cons (.inl rfl) (ih hlen' (hrest x hx) (hrest y hy))
      | char c =>
        obtain ⟨restX, heX, hrestX⟩ := spells_char.mp hx
        obtain ⟨restY, heY, hrestY⟩ := spells_char.mp hy
        cases p with
        | char d =>
          obtain ⟨rfl, rfl⟩ := List.cons.inj heX
          obtain ⟨-, rfl⟩ := List.cons.inj heY
          exact .cons (.inr rfl) (ih hlen' hrestX hrestY)
        | hole name =>
          have hxc : x = c := (List.cons.inj heX).1
          have hyc : y = c := (List.cons.inj heY).1
          exact absurd (hxc.trans hyc.symm) hxy

/-- Pieces that cover others have no fewer holes, and the same skeleton when they have no more. -/
theorem skeleton_eq_of_coveredBy {ps qs : List Piece} (h : List.Forall₂ CoveredBy ps qs) :
    (holes ps).length ≤ (holes qs).length ∧
      ((holes qs).length ≤ (holes ps).length → skeleton ps = skeleton qs) := by
  induction h with
  | nil => exact ⟨le_rfl, fun _ => rfl⟩
  | @cons p q ps qs hpq _ ih =>
    obtain ⟨hle, hsame⟩ := ih
    rcases hpq with hq | rfl
    · cases q with
      | char c => cases hq
      | hole name =>
        cases p with
        | char c =>
          have hmore : (holes (.hole name :: qs)).length = (holes qs).length + 1 := rfl
          have hkeep : (holes (.char c :: ps)).length = (holes ps).length := rfl
          rw [hmore, hkeep]
          exact ⟨by omega, fun hno => by omega⟩
        | hole other =>
          refine ⟨Nat.succ_le_succ hle, fun hno => ?_⟩
          exact congrArg (none :: ·) (hsame (Nat.le_of_succ_le_succ hno))
    · cases p with
      | char c => exact ⟨hle, fun hno => congrArg (some c :: ·) (hsame hno)⟩
      | hole name =>
        refine ⟨Nat.succ_le_succ hle, fun hno => ?_⟩
        exact congrArg (none :: ·) (hsame (Nat.le_of_succ_le_succ hno))

/-- A template within one of as many holes and as many pieces differs from it in names only. -/
theorem Within.skeleton_eq {ps qs : List Piece} (h : Within ps qs) (hlen : ps.length = qs.length)
    (hholes : (holes qs).length ≤ (holes ps).length) : skeleton ps = skeleton qs := by
  have hspells : ∀ x, x ≠ '/' → Spells qs (spread (fun _ => [x]) ps) := by
    intro x hx
    obtain ⟨tail, -, hspells⟩ := h.exists_tail fun _ _ => fillsSegment_single hx
    have hle := hspells.length_le
    rw [length_spread_single, List.length_append, List.length_map] at hle
    have htail : tail = [] := List.eq_nil_of_length_eq_zero (by omega)
    rwa [htail, List.map_nil, List.append_nil] at hspells
  have hcovers : List.Forall₂ CoveredBy ps qs :=
    forall₂_coveredBy (x := 'a') (y := 'b') (by decide) hlen (hspells 'a' (by decide))
      (hspells 'b' (by decide))
  exact (skeleton_eq_of_coveredBy hcovers).2 hholes

private theorem forall₂_modifyHead {p : Piece} {text : List Char}
    (hp : ∀ ps cs, Spells ps cs → Spells (p :: ps) (text ++ cs)) {segments : List (List Piece)}
    {texts : List (List Char)} (h : List.Forall₂ Spells segments texts) :
    List.Forall₂ Spells (segments.modifyHead (p :: ·)) (texts.modifyHead (text ++ ·)) := by
  cases h with
  | nil => exact .nil
  | cons first rest => exact .cons (hp _ _ first) rest

/-- Segments are spelled one by one. -/
theorem Spells.splitAt {ps : List Piece} {cs : List Char} (h : Spells ps cs) :
    List.Forall₂ Spells (splitAt (.char '/') ps) (splitAt '/' cs) := by
  induction h with
  | nil => exact .cons .nil .nil
  | @char c ps cs rest ih =>
    by_cases hc : c = '/'
    · rw [hc, Text.splitAt_cons_self, Text.splitAt_cons_self]
      exact .cons .nil ih
    · have hpiece : Piece.char c ≠ .char '/' := fun he => hc (Piece.char.inj he)
      rw [Text.splitAt_cons_of_ne hpiece, Text.splitAt_cons_of_ne hc]
      have hbefore : ∀ ps cs, Spells ps cs → Spells (.char c :: ps) ([c] ++ cs) := fun _ _ => .char
      exact forall₂_modifyHead hbefore ih
  | @hole name ps text cs fills rest ih =>
    have hpiece : Piece.hole name ≠ .char '/' := by
      intro he
      cases he
    rw [Text.splitAt_cons_of_ne hpiece, Text.splitAt_append_of_notMem fills.2]
    exact forall₂_modifyHead (fun _ _ => .hole fills) ih

/-- Filling a template fills its segments one by one. -/
theorem splitAt_spread {value : String → List Char} {ps : List Piece}
    (h : ∀ name, '/' ∉ value name) :
    splitAt '/' (spread value ps) = (splitAt (.char '/') ps).map (spread value) := by
  have hslash : Piece.fill value (.char '/') = ['/'] := rfl
  have hother : ∀ p, p ≠ .char '/' → '/' ∉ Piece.fill value p := by
    intro p hp
    cases p with
    | char c =>
      rw [Piece.fill, List.mem_singleton]
      exact fun he => hp (congrArg Piece.char he.symm)
    | hole name => exact h name
  exact Text.splitAt_flatMap_code hslash hother ps

private theorem sum_holes_modifyHead (p : Piece) {segments : List (List Piece)}
    (h : segments ≠ []) :
    ((segments.modifyHead (p :: ·)).map fun segment => (holes segment).length).sum =
      (holes [p]).length + (segments.map fun segment => (holes segment).length).sum := by
  cases segments with
  | nil => exact absurd rfl h
  | cons segment rest =>
    have hsplit : (holes (p :: segment)).length = (holes [p]).length + (holes segment).length := by
      rw [← List.singleton_append, holes_append, List.length_append]
    rw [List.modifyHead_cons, List.map_cons, List.sum_cons, List.map_cons, List.sum_cons, hsplit,
      Nat.add_assoc]

/-- The holes of a template are those of its segments. -/
theorem sum_holes_splitAt (ps : List Piece) :
    ((splitAt (.char '/') ps).map fun segment => (holes segment).length).sum =
      (holes ps).length := by
  induction ps with
  | nil => rfl
  | cons p ps ih =>
    by_cases hp : p = .char '/'
    · rw [hp, Text.splitAt_cons_self, List.map_cons, List.sum_cons, ih]
      exact Nat.zero_add _
    · rw [Text.splitAt_cons_of_ne hp, sum_holes_modifyHead p (Text.splitAt_ne_nil _ _), ih,
        ← List.length_append, ← holes_append, List.singleton_append]

/-- No segment has more than one hole. -/
def SingleHoled (ps : List Piece) : Prop :=
  ∀ segment ∈ splitAt (.char '/') ps, (holes segment).length ≤ 1

instance (ps : List Piece) : Decidable (SingleHoled ps) :=
  inferInstanceAs (Decidable (∀ segment ∈ splitAt (.char '/') ps, (holes segment).length ≤ 1))

private theorem length_le_spread (value : String → List Char) {name : String} {ps : List Piece}
    (h : name ∈ holes ps) : (value name).length ≤ (spread value ps).length := by
  rw [spread, List.length_flatMap]
  exact List.le_sum_of_mem (List.mem_map_of_mem (mem_holes.mp h))

private theorem Spells.length_eq {ps : List Piece} {cs : List Char} (h : Spells ps cs)
    (hholes : holes ps = []) : cs.length = ps.length := by
  induction h with
  | nil => rfl
  | char rest ih => exact congrArg (· + 1) (ih hholes)
  | hole fills rest ih => cases hholes

private theorem Spells.holes_le {ps qs : List Piece} {text : List Char}
    (h : Spells qs (spread (fun _ => text) ps)) (hsingle : (holes ps).length ≤ 1)
    (hshort : qs.length < text.length) : (holes ps).length ≤ (holes qs).length := by
  by_contra hnot
  have hnone : holes qs = [] := List.eq_nil_of_length_eq_zero (by omega)
  obtain ⟨name, hname⟩ : ∃ name, name ∈ holes ps := List.exists_mem_of_length_pos (by omega)
  have hlong : text.length ≤ (spread (fun _ => text) ps).length :=
    length_le_spread (fun _ => text) hname
  have hexact := h.length_eq hnone
  omega

/-- A segment is no longer than what it is cut from. -/
theorem length_le_of_mem_splitAt {ps segment : List Piece}
    (h : segment ∈ splitAt (.char '/') ps) : segment.length ≤ ps.length := by
  induction ps generalizing segment with
  | nil =>
    rw [List.mem_singleton.mp h]
  | cons p ps ih =>
    by_cases hp : p = .char '/'
    · rw [hp, Text.splitAt_cons_self] at h
      rcases List.mem_cons.mp h with rfl | h
      · exact Nat.zero_le _
      · exact (ih h).trans (Nat.le_succ _)
    · rw [Text.splitAt_cons_of_ne hp] at h
      cases hsegments : splitAt (.char '/') ps with
      | nil => exact absurd hsegments (Text.splitAt_ne_nil _ _)
      | cons first others =>
        rw [hsegments, List.modifyHead_cons] at h
        rcases List.mem_cons.mp h with rfl | h
        · exact Nat.succ_le_succ (ih (hsegments ▸ List.mem_cons_self))
        · exact (ih (hsegments ▸ List.mem_cons_of_mem _ h)).trans (Nat.le_succ _)

/-- A template has a hole in every segment in which one with single holes that lies within it has
one. -/
theorem Within.holes_le {ps qs : List Piece} (h : Within ps qs) (hs : SingleHoled ps) :
    (holes ps).length ≤ (holes qs).length := by
  -- the holes are filled with more characters than any segment of `qs` has pieces
  have hfills : FillsSegment (filler (qs.length + 3)) := filler_fillsSegment (by omega)
  have htext : (filler (qs.length + 3)).length = qs.length + 3 := List.length_replicate
  generalize filler (qs.length + 3) = text at hfills htext
  obtain ⟨tail, htail, hspells⟩ := h.exists_tail fun _ _ => hfills
  have hlen : (qs ++ tail.map Piece.char).length < text.length := by
    have hshort : tail.length ≤ 2 := by
      simp only [isTail, Bool.or_eq_true, decide_eq_true_eq] at htail
      rcases htail with ((rfl | rfl) | rfl) | rfl <;> decide
    rw [List.length_append, List.length_map]
    omega
  have hsegments := hspells.splitAt
  rw [splitAt_spread fun _ => hfills.2, List.forall₂_map_right_iff] at hsegments
  have hshort : List.Forall₂
      (fun q p => q.length < text.length ∧ Spells q (spread (fun _ => text) p))
      (splitAt (.char '/') (qs ++ tail.map Piece.char)) (splitAt (.char '/') ps) :=
    (List.forall₂_and_left _ _).mpr
      ⟨fun q hq => (length_le_of_mem_splitAt hq).trans_lt hlen, hsegments⟩
  rw [← holes_append_chars qs tail, ← sum_holes_splitAt ps, ← sum_holes_splitAt]
  refine List.Forall₂.sum_le_sum ?_
  rw [List.forall₂_map_left_iff, List.forall₂_map_right_iff]
  refine ((List.forall₂_and_left _ _).mpr ⟨hs, hshort.flip⟩).imp ?_
  rintro p q ⟨hsingle, hless, hsegment⟩
  exact hsegment.holes_le hsingle hless

end RestContract.Template
