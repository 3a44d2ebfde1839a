import RestContract.Proofs.Template.Filling

/-!
# Resolving a template

Every given name begins with a letter or an underscore and goes on with letters, digits
and underscores, so none goes past the end of a hole, and no colon but that of a hole is
followed by one. The longest given name with which the name of a hole begins is replaced,
and the rest of that name stays. If the name of the hole is given at all, then that is the
longest one, and nothing stays; if it begins with no given name, the hole is left as it
stands. Either way the holes alone change, and each of them in its own way, so that what
stands in a segment fills that segment.
-/

namespace RestContract.Template

private theorem prefix_takeWhile {q : α → Bool} {l m : List α} (h : l <+: m)
    (hl : ∀ a ∈ l, q a = true) : l <+: m.takeWhile q := by
  obtain ⟨rest, rfl⟩ := h
  rw [List.takeWhile_append_of_pos hl]
  exact List.prefix_append _ _

/-- Longer names go first. -/
theorem longestFirst_pairwise (values : List (String × String)) :
    (longestFirst values).Pairwise fun a b => b.1.length ≤ a.1.length := by
  have h : (longestFirst values).Pairwise fun a b => decide (b.1.length ≤ a.1.length) = true := by
    refine List.pairwise_mergeSort ?_ ?_ values
    · intro a b c hab hbc
      simp only [decide_eq_true_eq] at *
      omega
    · intro a b
      simp only [Bool.or_eq_true, decide_eq_true_eq]
      omega
  exact h.imp of_decide_eq_true

/-- Sorting by length keeps the given texts. -/
theorem mem_longestFirst {values : List (String × String)} {v : String × String} :
    v ∈ longestFirst values ↔ v ∈ values := List.mem_mergeSort

section

variable {values : List (String × String)}

private theorem nameAt?_eq_none (hn : ∀ v ∈ values, IsName v.1) (cs : List Char)
    (h : cs.head?.any isNameStart = false) : nameAt? (longestFirst values) cs = none := by
  refine List.find?_eq_none.mpr fun v hv hp => ?_
  obtain ⟨c, ds, he, hc, -⟩ := hn v (mem_longestFirst.mp hv)
  obtain ⟨rest, rfl⟩ := List.isPrefixOf_iff_prefix.mp hp
  rw [he] at h
  simp [hc] at h

/-- Names are searched for in the name of a hole, not beyond it. -/
theorem nameAt?_takeWhile (hn : ∀ v ∈ values, IsName v.1) (cs : List Char) :
    nameAt? (longestFirst values) cs = nameAt? (longestFirst values) (cs.takeWhile isNameChar) := by
  have hsame : ∀ v ∈ longestFirst values,
      v.1.toList.isPrefixOf cs = v.1.toList.isPrefixOf (cs.takeWhile isNameChar) := by
    intro v hv
    rw [Bool.eq_iff_iff, List.isPrefixOf_iff_prefix, List.isPrefixOf_iff_prefix]
    constructor
    · intro h
      exact prefix_takeWhile h (hn v (mem_longestFirst.mp hv)).isNameChar
    · intro h
      exact h.trans (List.takeWhile_prefix _)
  exact List.find?_congr hsame

/-- The name that is found is given, the text begins with it, and no longer given name fits. -/
theorem nameAt?_longest {cs : List Char} {v : String × String}
    (h : nameAt? (longestFirst values) cs = some v) : v ∈ values ∧ v.1.toList <+: cs ∧
      ∀ w ∈ values, w.1.toList <+: cs → w.1.length ≤ v.1.length := by
  obtain ⟨hfits, front, back, hsplit, hfront⟩ := List.find?_eq_some_iff_append.mp h
  refine ⟨mem_longestFirst.mp (by rw [hsplit]; simp), List.isPrefixOf_iff_prefix.mp hfits, ?_⟩
  intro w hw hbegin
  have hsorted := longestFirst_pairwise values
  have hin := mem_longestFirst.mpr hw
  rw [hsplit] at hsorted hin
  rcases List.mem_append.mp hin with hin | hin
  · have hnot := hfront w hin
    rw [List.isPrefixOf_iff_prefix.mpr hbegin] at hnot
    cases hnot
  · rcases List.mem_cons.mp hin with rfl | hin
    · exact Nat.le_refl _
    · exact (List.pairwise_cons.mp (List.pairwise_append.mp hsorted).2.1).1 w hin

/-- A name is found where the text begins with a given one. -/
theorem exists_nameAt? {cs : List Char} {v : String × String} (hv : v ∈ values)
    (hbegin : v.1.toList <+: cs) : ∃ w, nameAt? (longestFirst values) cs = some w :=
  Option.isSome_iff_exists.mp (List.find?_isSome.mpr
    ⟨v, mem_longestFirst.mpr hv, List.isPrefixOf_iff_prefix.mpr hbegin⟩)

private theorem nameAt?_of_given {name : String} (hgiven : ∃ v ∈ values, v.1 = name) :
    ∃ v ∈ values, v.1 = name ∧ nameAt? (longestFirst values) name.toList = some v := by
  obtain ⟨w, hw, rfl⟩ := hgiven
  obtain ⟨v, hv⟩ := exists_nameAt? hw (List.prefix_refl w.1.toList)
  obtain ⟨hmem, hbegin, hlongest⟩ := nameAt?_longest hv
  -- The name itself fits, so the one that is found is at least as long.
  have hlong : w.1.toList.length ≤ v.1.toList.length := by
    rw [String.length_toList, String.length_toList]
    exact hlongest w hw (List.prefix_refl _)
  exact ⟨v, hmem, String.toList_injective (hbegin.eq_of_length_le hlong), hv⟩

end

/-! ## What stands in a hole -/

/-- What a hole holds after the given texts were put into a template: the text of the longest given
name with which its name begins and the rest of its name, or its own mark. -/
def filled (values : List (String × String)) (name : String) : List Char :=
  match nameAt? (longestFirst values) name.toList with
  | some (given, text) => text.toList ++ name.toList.drop given.length
  | none => mark name

section

variable {values : List (String × String)}

/-- A hole whose name begins with no given name is left as it stands. -/
theorem filled_of_not_prefix {name : String}
    (h : ∀ v ∈ values, ¬v.1.toList <+: name.toList) : filled values name = mark name := by
  have hnone : nameAt? (longestFirst values) name.toList = none := by
    refine List.find?_eq_none.mpr fun v hv hp => ?_
    exact h v (mem_longestFirst.mp hv) (List.isPrefixOf_iff_prefix.mp hp)
  rw [filled, hnone]

/-- A hole whose name is given holds a text of that name, and nothing else. -/
theorem filled_of_given {name : String} (hgiven : ∃ v ∈ values, v.1 = name) :
    ∃ v ∈ values, v.1 = name ∧ filled values name = v.2.toList := by
  obtain ⟨v, hv, hname, hat⟩ := nameAt?_of_given hgiven
  have hrest : name.toList.drop v.1.length = [] := by
    rw [hname, ← String.length_toList, List.drop_length]
  refine ⟨v, hv, hname, ?_⟩
  rw [filled, hat]
  simp only [hrest, List.append_nil]

private theorem IsName.slash_notMem {name : String} (h : IsName name) : '/' ∉ name.toList := by
  intro hm
  have hslash : Template.isNameChar '/' = false := by decide
  rw [h.isNameChar '/' hm] at hslash
  cases hslash

/-- Where the given texts can fill segments, what a hole holds fills its segment. -/
theorem fills_filled (hv : ∀ v ∈ values, FillsSegment v.2.toList) {name : String}
    (hname : IsName name) : FillsSegment (filled values name) := by
  have hslash := hname.slash_notMem
  unfold filled
  cases hat : nameAt? (longestFirst values) name.toList with
  | none =>
    refine ⟨List.cons_ne_nil _ _, ?_⟩
    rw [mark, List.mem_cons, not_or]
    exact ⟨by decide, hslash⟩
  | some v =>
    obtain ⟨hne, htext⟩ := hv v (mem_longestFirst.mp (List.mem_of_find?_eq_some hat))
    refine ⟨fun h => hne (List.append_eq_nil_iff.mp h).1, ?_⟩
    simp only
    rw [List.mem_append, not_or]
    exact ⟨htext, fun hm => hslash (List.mem_of_mem_drop hm)⟩

/-! ## The whole template -/

/-- The characters of names stay as they are. -/
theorem resolveFrom_append {front : List Char} (hf : ∀ c ∈ front, isNameChar c = true)
    (rest : List Char) :
    resolveFrom values (front ++ rest) = front ++ resolveFrom values rest := by
  have hcolon : isNameChar ':' = false := by decide
  induction front with
  | nil => rfl
  | cons c front ih =>
    have hc : c ≠ ':' := by
      rintro rfl
      have hcolon' := hf ':' List.mem_cons_self
      rw [hcolon] at hcolon'
      cases hcolon'
    rw [List.cons_append, resolveFrom, if_neg hc, ih fun d hd => hf d (List.mem_cons_of_mem _ hd),
      List.cons_append]

/-- Resolving a template puts into each hole what that hole holds then, and changes nothing else. -/
theorem resolve_toList_filled (hn : ∀ v ∈ values, IsName v.1) (template : String) :
    (resolve template values).toList = spread (filled values) (pieces template.toList) := by
  rw [resolve, String.toList_ofList]
  generalize template.toList = cs
  induction cs using pieces.induct with
  | case1 => simp [pieces, resolveFrom]
  | case2 c =>
    have hnone := nameAt?_eq_none hn [] rfl
    by_cases hc : c = ':' <;> simp [pieces, resolveFrom, hc, hnone]
  | case3 m c cs hm ih =>
    obtain ⟨hmark, hc⟩ := Bool.and_eq_true_iff.mp hm
    obtain rfl : m = ':' := of_decide_eq_true hmark
    have hname : (c :: cs).takeWhile isNameChar = c :: cs.takeWhile isNameChar :=
      List.takeWhile_cons_of_pos (isNameChar_of_isNameStart hc)
    have hsplit : c :: cs = (c :: cs.takeWhile isNameChar) ++ cs.dropWhile isNameChar := by
      rw [List.cons_append, List.takeWhile_append_dropWhile]
    have hchars : ∀ d ∈ c :: cs.takeWhile isNameChar, isNameChar d = true := by
      rw [← hname]
      exact List.all_eq_true.mp List.all_takeWhile
    have hfound := nameAt?_takeWhile hn (c :: cs)
    rw [hname] at hfound
    rw [pieces, if_pos hm, spread_hole, filled, String.toList_ofList, resolveFrom,
      if_pos rfl, hfound]
    cases hat : nameAt? (longestFirst values) (c :: cs.takeWhile isNameChar) with
    | none =>
      simp only
      rw [hsplit, resolveFrom_append hchars, ih, mark, String.toList_ofList]
      rfl
    | some v =>
      -- The given name ends within that of the hole, and the rest of that is copied.
      have hfits : v.1.toList.isPrefixOf (c :: cs.takeWhile isNameChar) = true := by
        unfold nameAt? at hat
        simpa using List.find?_some hat
      have hprefix := List.isPrefixOf_iff_prefix.mp hfits
      have hlength : v.1.length ≤ (c :: cs.takeWhile isNameChar).length := by
        rw [← String.length_toList]
        exact hprefix.length_le
      simp only
      rw [hsplit, List.drop_append_of_le_length hlength,
        resolveFrom_append fun d hd => hchars d (List.mem_of_mem_drop hd), ih, List.append_assoc]
  | case4 m c cs hm ih =>
    rw [pieces, if_neg hm]
    by_cases hcolon : m = ':'
    · have hc : isNameStart c = false := by simpa [hcolon] using hm
      have hnone := nameAt?_eq_none hn (c :: cs) (by simp [hc])
      rw [resolveFrom, if_pos hcolon, hnone, spread_char, ← ih]
    · rw [resolveFrom, if_neg hcolon, spread_char, ← ih]

/-- With a text for every hole resolving puts into each hole the text of its name. -/
theorem resolve_toList {template : String} {value : String → List Char}
    (hn : ∀ v ∈ values, IsName v.1) (hv : ∀ v ∈ values, value v.1 = v.2.toList)
    (hgiven : ∀ name ∈ tokens template, ∃ v ∈ values, v.1 = name) :
    (resolve template values).toList = spread value (pieces template.toList) := by
  have hsame : ∀ name ∈ tokens template, filled values name = value name := by
    intro name hname
    obtain ⟨v, hmem, rfl, hfilled⟩ := filled_of_given (hgiven name hname)
    rw [hfilled, hv v hmem]
  rw [resolve_toList_filled hn, spread_congr hsame]

end

end RestContract.Template
