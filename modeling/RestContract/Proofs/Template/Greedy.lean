import RestContract.Proofs.Template.Binding
import RestContract.Proofs.Template.Expression
import RestContract.Proofs.Template.Language
import RestContract.Proofs.Template.Scan

/-!
# The division of a path that a match finds

A path divides into the literal texts of a template, a text without slashes for each hole, and a
tail. There may be many such divisions, as holes may stand side by side and texts in holes may look
like literals. Matching finds one whenever there is one, and of several the one whose first text is
the longest, then the second, and so on: cuts are tried with longer texts first, and a cut is given
up only when what follows it does not divide at all.
-/

namespace RestContract.Template

/-- A path divides into the literal texts of a template, one text for each hole, and a tail. -/
structure Divides (ps : List Piece) (cs : List Char) (texts : List (List Char)) : Prop where
  /-- Every hole has a text. -/
  count : texts.length = (holes ps).length
  /-- No text is empty or holds a slash. -/
  fills : ∀ text ∈ texts, FillsSegment text
  /-- The literal texts with those of the holes between them are the path up to a tail. -/
  spelled : ∃ tail, isTail tail = true ∧ cs = weave (literals ps) texts ++ tail

/-- Without pieces a tail is left. -/
theorem divides_nil {cs : List Char} {texts : List (List Char)} :
    Divides [] cs texts ↔ texts = [] ∧ isTail cs = true := by
  constructor
  · rintro ⟨hcount, -, tail, htail, rfl⟩
    obtain rfl := List.eq_nil_of_length_eq_zero hcount
    exact ⟨rfl, htail⟩
  · rintro ⟨rfl, htail⟩
    exact ⟨rfl, List.forall_mem_nil _, cs, htail, rfl⟩

/-- A character is matched by itself. -/
theorem divides_char {c : Char} {ps : List Piece} {cs : List Char} {texts : List (List Char)} :
    Divides (.char c :: ps) cs texts ↔ ∃ rest, cs = c :: rest ∧ Divides ps rest texts := by
  constructor
  · rintro ⟨hcount, hfills, tail, htail, rfl⟩
    refine ⟨_, ?_, hcount, hfills, tail, htail, rfl⟩
    rw [weave_literals_char, List.cons_append]
  · rintro ⟨rest, rfl, hcount, hfills, tail, htail, rfl⟩
    refine ⟨hcount, hfills, tail, htail, ?_⟩
    rw [weave_literals_char, List.cons_append]

/-- A hole takes the first text. -/
theorem divides_hole {name : String} {ps : List Piece} {cs : List Char} {texts : List (List Char)} :
    Divides (.hole name :: ps) cs texts ↔ ∃ text rest others, texts = text :: others ∧
      cs = text ++ rest ∧ FillsSegment text ∧ Divides ps rest others := by
  constructor
  · rintro ⟨hcount, hfills, tail, htail, rfl⟩
    cases texts with
    | nil => cases hcount
    | cons text others =>
      obtain ⟨hfill, hothers⟩ := List.forall_mem_cons.mp hfills
      refine ⟨text, _, others, rfl, ?_, hfill, Nat.succ.inj hcount, hothers, tail, htail, rfl⟩
      rw [weave_literals_hole, List.append_assoc]
  · rintro ⟨text, rest, others, rfl, rfl, hfill, hcount, hothers, tail, htail, rfl⟩
    refine ⟨congrArg (· + 1) hcount, List.forall_mem_cons.mpr ⟨hfill, hothers⟩, tail, htail, ?_⟩
    rw [weave_literals_hole, List.append_assoc]

/-- A path that divides matches. -/
theorem Divides.isSome_fill? {ps : List Piece} {cs : List Char} {texts : List (List Char)}
    (h : Divides ps cs texts) : (fill? ps cs).isSome = true := by
  induction ps generalizing cs texts with
  | nil =>
    rw [fill?, if_pos (divides_nil.mp h).2]
    rfl
  | cons p ps ih =>
    cases p with
    | char c =>
      obtain ⟨rest, rfl, hrest⟩ := divides_char.mp h
      rw [fill?, if_pos rfl]
      exact ih hrest
    | hole name =>
      obtain ⟨text, rest, others, rfl, rfl, hfill, hrest⟩ := divides_hole.mp h
      rw [fill?, List.findSome?_isSome_iff]
      refine ⟨(text, rest), mem_segmentCuts.mpr ⟨rfl, hfill⟩, ?_⟩
      rw [Option.isSome_map]
      exact ih hrest

/-- Texts come before others when the first that differs from its counterpart is longer. -/
def Longer : List (List Char) → List (List Char) → Prop :=
  List.Lex fun a b => b.length < a.length

/-- The texts of a division whose first text is as long as possible, then the second, and so on. -/
structure Greedy (ps : List Piece) (cs : List Char) (texts : List (List Char)) : Prop where
  /-- The path divides into the texts. -/
  divides : Divides ps cs texts
  /-- The texts come before those of any other division. -/
  longer : ∀ others, Divides ps cs others → others = texts ∨ Longer texts others

/-- Cuts come with longer texts first. -/
theorem pairwise_segmentCuts (cs : List Char) :
    (segmentCuts cs).Pairwise fun a b => b.1.length < a.1.length := by
  induction cs with
  | nil => exact .nil
  | cons c cs ih =>
    rw [segmentCuts]
    split
    · exact .nil
    · refine List.pairwise_append.mpr ⟨?_, List.pairwise_singleton _ _, fun a ha b hb => ?_⟩
      · exact List.pairwise_map.mpr (ih.imp fun h => Nat.succ_lt_succ h)
      · obtain ⟨cut, hcut, rfl⟩ := List.mem_map.mp ha
        rw [List.mem_singleton.mp hb]
        simpa using List.length_pos_of_ne_nil (segmentCuts_sound hcut).2.1

/-- The texts that a match finds are those of the greedy division. -/
theorem greedy_of_fill? {ps : List Piece} {cs : List Char} {texts : List (List Char)}
    (h : fill? ps cs = some texts) : Greedy ps cs texts := by
  induction ps generalizing cs texts with
  | nil =>
    rw [fill?] at h
    split at h
    next htail =>
      obtain rfl := Option.some.inj h
      exact ⟨divides_nil.mpr ⟨rfl, htail⟩, fun others ho => .inl (divides_nil.mp ho).1⟩
    next => cases h
  | cons p ps ih =>
    cases p with
    | char c =>
      cases cs with
      | nil => cases h
      | cons d cs =>
        rw [fill?] at h
        split at h
        next hcd =>
          subst hcd
          obtain ⟨hdivides, hlonger⟩ := ih h
          refine ⟨divides_char.mpr ⟨cs, rfl, hdivides⟩, fun others ho => ?_⟩
          obtain ⟨rest, he, hrest⟩ := divides_char.mp ho
          obtain rfl := (List.cons.inj he).2
          exact hlonger others hrest
        next => cases h
    | hole name =>
      rw [fill?] at h
      obtain ⟨front, cut, back, hcuts, hcut, hfront⟩ := List.findSome?_eq_some_iff.mp h
      obtain ⟨left, hleft, rfl⟩ := Option.map_eq_some_iff.mp hcut
      obtain ⟨hdivides, hlonger⟩ := ih hleft
      have hmem : cut ∈ segmentCuts cs := hcuts ▸ List.mem_append_right _ List.mem_cons_self
      obtain ⟨hsplit, hfill⟩ := segmentCuts_sound hmem
      refine ⟨divides_hole.mpr ⟨cut.1, cut.2, left, rfl, hsplit, hfill, hdivides⟩, ?_⟩
      intro others ho
      obtain ⟨text, rest, behind, rfl, hcs, hother, hbehind⟩ := divides_hole.mp ho
      -- Another division begins with a cut before, at or behind the one that was found.
      have hplace : (text, rest) ∈ front ++ cut :: back :=
        hcuts ▸ mem_segmentCuts.mpr ⟨hcs, hother⟩
      rcases List.mem_append.mp hplace with hbefore | hplace
      · have hnone := Option.map_eq_none_iff.mp (hfront _ hbefore)
        have hsome := hbehind.isSome_fill?
        rw [hnone] at hsome
        cases hsome
      · rcases List.mem_cons.mp hplace with rfl | hback
        · rcases hlonger behind hbehind with rfl | hlonger
          · exact .inl rfl
          · exact .inr (.cons hlonger)
        · have hlengths := pairwise_segmentCuts cs
          rw [hcuts] at hlengths
          exact .inr (.rel (List.rel_of_pairwise_cons (List.pairwise_append.mp hlengths).2.1 hback))

/-- A path matches exactly when it divides. -/
theorem isSome_fill?_iff_divides {ps : List Piece} {cs : List Char} :
    (fill? ps cs).isSome = true ↔ ∃ texts, Divides ps cs texts := by
  constructor
  · intro h
    obtain ⟨texts, htexts⟩ := Option.isSome_iff_exists.mp h
    exact ⟨texts, (greedy_of_fill? htexts).divides⟩
  · rintro ⟨texts, h⟩
    exact h.isSome_fill?

/-- A name is bound to the decoded text of its last hole. -/
theorem lookup_bind (names : List String) (texts : List (List Char)) (name : String) :
    (bind names texts).lookup name =
      ((names.zip texts).reverse.lookup name).map fun text =>
        String.ofList (Percent.unescape text) := by
  rw [bind]
  generalize names.zip texts = pairs
  induction pairs using List.reverseRecOn with
  | nil => rfl
  | append_singleton pairs p ih =>
    rw [List.foldl_append, List.foldl_cons, List.foldl_nil, lookup_storeName, ih,
      List.reverse_append, List.reverse_singleton, List.singleton_append, List.lookup_cons]
    by_cases h : name = p.1
    · simp [h]
    · simp [h, beq_eq_false_iff_ne.mpr h]

/-- A normalized template is its literal texts with the names of its holes between them, as a scan
from the left cuts them out, and it is matched as the expression is to which it is compiled. A path
matches exactly when it divides into the literal texts, a text for each hole and a tail; then every
name is bound to the decoded text of its last hole in the division whose first text is as long as
possible, then the second, and so on. -/
theorem params?_greedy (template path : String) :
    (Scanned (pattern template) ∧ weave (literals (pattern template))
      ((holes (pattern template)).map mark) = (normalize template).toList) ∧
    (params? (pattern template) path =
      (((Expression.read (expression (pattern template)).toList).bind fun atoms =>
        Expression.groups? atoms true path.toList).map (bind (holes (pattern template))))) ∧
    ((params? (pattern template) path).isSome = true ↔
      ∃ texts, Divides (pattern template) path.toList texts) ∧
    ∀ params, params? (pattern template) path = some params →
      ∃ texts, Greedy (pattern template) path.toList texts ∧
        ∀ name, params.lookup name =
          (((holes (pattern template)).zip texts).reverse.lookup name).map fun text =>
            String.ofList (Percent.unescape text) := by
  refine ⟨⟨scanned_pieces _, ?_⟩, ?_, ?_, fun params hparams => ?_⟩
  · rw [weave_literals_marks, pattern, spread_mark_pieces]
  · rw [Expression.groups?_expression, params?]
  · rw [params?, Option.isSome_map, isSome_fill?_iff_divides]
  · obtain ⟨texts, htexts, rfl⟩ := Option.map_eq_some_iff.mp hparams
    exact ⟨texts, greedy_of_fill? htexts, lookup_bind _ texts⟩

/-- Of two holes side by side the first one takes all but one character, a name that stands twice is
bound to the text in its last hole, and a slash and a line feed at the end belong to no hole. -/
example : (params? (pattern "v:a:b.:a/") "/vxyz.%71/\n") =
    some [("a", "q"), ("b", "z")] := by decide +kernel

end RestContract.Template
