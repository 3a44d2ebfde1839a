import RestContract.Handler.Operation
import RestContract.Proofs.Stream.Frames
import RestContract.Proofs.Value.Shown

/-!
# The words of a name

An operation is named after an endpoint: its words in lower case, with underscores between them. A
word ends at an underscore of the name as well, and a letter of one word does not change how another
one is lowered. So two endpoints have operations of one name exactly when their names have the same
words up to case. Where every word is a capital with small letters and digits behind it, the words
are those of one name only.
-/

namespace RestContract

namespace Text

variable {α : Type} [DecidableEq α]

/-- Pieces without marks are what their text is cut into. -/
theorem splitAt_intercalate {mark : α} {first : List α} {rest : List (List α)}
    (h : ∀ piece ∈ first :: rest, mark ∉ piece) :
    splitAt mark ([mark].intercalate (first :: rest)) = first :: rest := by
  induction rest generalizing first with
  | nil =>
    have hcut := splitAt_append_of_notMem (h first List.mem_cons_self) []
    rw [List.append_nil] at hcut
    rw [List.intercalate_singleton, hcut, splitAt_nil, List.modifyHead_cons, List.append_nil]
  | cons second rest ih =>
    obtain ⟨hfirst, hrest⟩ := List.forall_mem_cons.mp h
    rw [List.intercalate_cons_cons, List.append_assoc, splitAt_append_of_notMem hfirst,
      List.singleton_append, splitAt_cons_self, ih hrest, List.modifyHead_cons, List.append_nil]

/-! ## Lower case, piece by piece -/

private theorem meetsCased_cons (c : Char) (cs : List Char) :
    meetsCased (c :: cs) =
      if inRanges caselessMarkRanges c.toNat then meetsCased cs
      else inRanges casedRanges c.toNat := by
  rw [meetsCased, List.dropWhile_cons]
  by_cases h : inRanges caselessMarkRanges c.toNat = true
  · rw [if_pos h, if_pos h, meetsCased]
  · rw [if_neg h, if_neg h]

/-- An underscore has no case, and a sigma does not see past it. -/
theorem meetsCased_append (front back : List Char) :
    meetsCased (front ++ '_' :: back) = meetsCased front := by
  induction front with
  | nil =>
    have hmark : ¬inRanges caselessMarkRanges '_'.toNat = true := by decide +kernel
    have hcased : inRanges casedRanges '_'.toNat = false := by decide
    rw [List.nil_append, meetsCased_cons, if_neg hmark, hcased]
    rfl
  | cons c cs ih => rw [List.cons_append, meetsCased_cons, meetsCased_cons, ih]

private theorem lowerFrom_append (front before cs : List Char) :
    lowerFrom (front ++ '_' :: before) cs = lowerFrom front cs := by
  induction cs generalizing front with
  | nil => rfl
  | cons c cs ih =>
    rw [lowerFrom, lowerFrom, meetsCased_append]
    exact congrArg _ (ih (c :: front))

/-- Of the first characters each has a lower case of its own. -/
theorem lowerFrom_cons {c : Char} (h : c.toNat < 128) (before cs : List Char) :
    lowerFrom before (c :: cs) =
      recase lowerSpecials lowerRuns c ++ lowerFrom (c :: before) cs := by
  have hsigma : c ≠ 'Σ' := by
    rintro rfl
    exact absurd h (by decide)
  simp [lowerFrom, hsigma]

private theorem lowerFrom_underscore (before piece rest : List Char) :
    lowerFrom before (piece ++ '_' :: rest) =
      lowerFrom before piece ++ '_' :: lowerFrom [] rest := by
  induction piece generalizing before with
  | nil =>
    rw [List.nil_append, lowerFrom_cons (by decide), recase_of_isSign (by decide)]
    exact congrArg _ (lowerFrom_append [] before rest)
  | cons c cs ih =>
    rw [List.cons_append, lowerFrom, lowerFrom, meetsCased_append, ih, List.append_assoc]

/-- The lower case of pieces with underscores between them. -/
theorem lowerFrom_intercalate (pieces : List (List Char)) :
    lowerFrom [] (['_'].intercalate pieces) = ['_'].intercalate (pieces.map (lowerFrom [])) := by
  induction pieces with
  | nil => rfl
  | cons first rest ih =>
    cases rest with
    | nil => rw [List.intercalate_singleton, List.map_singleton, List.intercalate_singleton]
    | cons second rest =>
      rw [List.intercalate_cons_cons, List.append_assoc, List.singleton_append,
        lowerFrom_underscore, ih]
      simp only [List.map_cons, List.intercalate_cons_cons, List.append_assoc,
        List.singleton_append]

/-- In lower case, no run of letters reaches the underscore. -/
private theorem lowerRuns_last : (lowerRuns.all fun r =>
    0x5F < (r.first : Int) + r.shift || (r.last : Int) + r.shift < 0x5F) = true := by decide

/-- The lower case of another letter is no underscore. -/
theorem underscore_notMem_recase {c : Char} (h : c ≠ '_') :
    '_' ∉ recase lowerSpecials lowerRuns c := by
  have hcode : ∀ n, '_' = Char.ofNat n → n = 0x5F := by
    intro n hn
    have hvalue : (Char.ofNat n).toNat = 0x5F := congrArg Char.toNat hn.symm
    by_cases hvalid : n.isValidChar
    · rwa [Char.toNat_ofNat, if_pos hvalid] at hvalue
    · rw [Char.toNat_ofNat, if_neg hvalid] at hvalue
      cases hvalue
  rw [recase]
  split
  next ns hspecial =>
    have hns : [0x69, 0x307] = ns := by
      rw [lowerSpecials, List.lookup_cons] at hspecial
      split at hspecial
      · exact Option.some.inj hspecial
      · cases hspecial
    subst hns
    decide
  next =>
    rw [List.mem_singleton, shiftBy]
    intro heq
    split at heq
    next r hrun =>
      have hreach := hcode _ heq
      have hmem := List.all_eq_true.mp lowerRuns_last r (List.mem_of_find?_eq_some hrun)
      have hfound := List.find?_some hrun
      simp only [Bool.and_eq_true, Bool.or_eq_true, decide_eq_true_eq] at hmem hfound
      omega
    next => exact h heq.symm

/-- Lower case makes no underscore. -/
theorem underscore_notMem_lowerFrom {cs : List Char} (h : '_' ∉ cs) (before : List Char) :
    '_' ∉ lowerFrom before cs := by
  induction cs generalizing before with
  | nil => exact List.not_mem_nil
  | cons c cs ih =>
    obtain ⟨hc, hcs⟩ := not_or.mp fun hor => h (List.mem_cons.mpr hor)
    rw [lowerFrom]
    refine fun hmem => (List.mem_append.mp hmem).elim ?_ (ih hcs _)
    split
    · split <;> decide
    · exact underscore_notMem_recase (Ne.symm hc)

end Text

open Text (lowerFrom splitAt)

/-! ## Words -/

/-- The words of a name. -/
def words (name : String) : List (List Char) := splitAt '_' (breakWords name.toList)

/-- The words of a name in lower case. -/
def lowWords (name : String) : List (List Char) := (words name).map (lowerFrom [])

/-- An operation is named by the words in lower case, with underscores between them. -/
theorem toList_operationName (name : String) :
    (operationName name).toList = ['_'].intercalate (lowWords name) := by
  rw [operationName, Text.lower, String.toList_ofList, String.toList_ofList, lowWords, words,
    ← Text.lowerFrom_intercalate, Text.intercalate_splitAt]

private theorem splitAt_operationName (name : String) :
    splitAt '_' (operationName name).toList = lowWords name := by
  have hnone : ∀ piece ∈ lowWords name, '_' ∉ piece := by
    intro piece hpiece
    obtain ⟨word, hword, rfl⟩ := List.mem_map.mp hpiece
    exact Text.underscore_notMem_lowerFrom (Text.notMem_of_mem_splitAt hword) []
  rw [toList_operationName]
  cases hwords : lowWords name with
  | nil => exact absurd (List.map_eq_nil_iff.mp hwords) (Text.splitAt_ne_nil _ _)
  | cons first rest => exact Text.splitAt_intercalate (hwords ▸ hnone)

/-- Operations have one name exactly when the endpoints have the same words up to case. -/
theorem operationName_eq_iff {a b : String} :
    operationName a = operationName b ↔ lowWords a = lowWords b := by
  rw [← String.toList_inj]
  constructor
  · intro h
    rw [← splitAt_operationName, ← splitAt_operationName, h]
  · intro h
    rw [toList_operationName, toList_operationName, h]

/-- The parts of a name are set off, acronyms too. -/
example : operationName "ParseHTTPHeaderV2" = "parse_http_header_v2" := by decide

/-! ## Capitalized words -/

/-- Whether a word is a capital with small letters and digits behind it. -/
def isCapitalized : List Char → Bool
  | [] => false
  | c :: cs => c.isUpper && cs.all isLowOrDigit

/-- Whether a name is made of such words only. -/
def isCamelCase (name : String) : Bool :=
  !name.toList.contains '_' && (words name).all isCapitalized

/-- An article is a word of its own; an acronym is no capitalized word. -/
example : isCamelCase "GetAUserV2" = true ∧ isCamelCase "GetURL" = false := by decide

/-- The lower case of small letters, digits and capitals. -/
theorem recase_first : ∀ n < 128,
    (isLowOrDigit (Char.ofNat n) = true → Text.recase Text.lowerSpecials Text.lowerRuns
      (Char.ofNat n) = [Char.ofNat n]) ∧
    ((Char.ofNat n).isUpper = true → (Text.recase Text.lowerSpecials Text.lowerRuns
      (Char.ofNat n)).map Char.toUpper = [Char.ofNat n]) := by
  decide

/-- Small letters and digits are their own lower case. -/
theorem lowerFrom_of_isLowOrDigit {cs : List Char} (h : ∀ c ∈ cs, isLowOrDigit c = true)
    (before : List Char) : lowerFrom before cs = cs := by
  induction cs generalizing before with
  | nil => rfl
  | cons c cs ih =>
    obtain ⟨hc, hcs⟩ := List.forall_mem_cons.mp h
    have hcode : c.toNat < 128 := by
      simp only [isLowOrDigit, Char.isLower, Char.isDigit, Bool.or_eq_true, Bool.and_eq_true,
        decide_eq_true_eq, UInt32.le_iff_toNat_le, ge_iff_le] at hc
      change (97 ≤ c.toNat ∧ c.toNat ≤ 122) ∨ (48 ≤ c.toNat ∧ c.toNat ≤ 57) at hc
      omega
    have hlow := (recase_first c.toNat hcode).1
    rw [Char.ofNat_toNat] at hlow
    rw [Text.lowerFrom_cons hcode, hlow hc, ih hcs, List.singleton_append]

/-- A word with its first letter as a capital. -/
def capitalize : List Char → List Char
  | [] => []
  | c :: cs => c.toUpper :: cs

/-- A capitalized word is found again in its lower case. -/
theorem capitalize_lowerFrom {word : List Char} (h : isCapitalized word = true) :
    capitalize (lowerFrom [] word) = word := by
  cases word with
  | nil => cases h
  | cons c cs =>
    obtain ⟨hc, hcs⟩ := Bool.and_eq_true_iff.mp h
    have hcode : c.toNat < 128 := by
      simp only [Char.isUpper, decide_eq_true_eq, UInt32.le_iff_toNat_le, ge_iff_le] at hc
      change 65 ≤ c.toNat ∧ c.toNat ≤ 90 at hc
      omega
    have hupper := (recase_first c.toNat hcode).2
    rw [Char.ofNat_toNat] at hupper
    obtain ⟨low, hlow, hback⟩ := List.map_eq_singleton_iff.mp (hupper hc)
    rw [Text.lowerFrom_cons hcode, hlow, lowerFrom_of_isLowOrDigit (List.all_eq_true.mp hcs),
      List.singleton_append, capitalize, hback]

/-- Underscores are all that words are broken with. -/
theorem filter_breakWords (cs : List Char) :
    (breakWords cs).filter (fun c => c ≠ '_') = cs.filter fun c => c ≠ '_' := by
  induction cs with
  | nil => rfl
  | cons c cs ih =>
    have hmark : ∀ l : List Char,
        ('_' :: l).filter (fun c => c ≠ '_') = l.filter fun c => c ≠ '_' :=
      fun l => List.filter_cons_of_neg (by decide)
    rw [breakWords]
    split
    · rw [List.filter_cons, hmark, ih, List.filter_cons]
    · rw [List.filter_cons, ih, List.filter_cons]

private theorem flatten_words {name : String} (h : '_' ∉ name.toList) :
    (words name).flatten = name.toList := by
  rw [words, Text.flatten_splitAt, filter_breakWords, List.filter_eq_self]
  intro c hc
  simpa using fun he : c = '_' => h (he ▸ hc)

/-- Names of capitalized words that have the same words up to case are one name. -/
theorem eq_of_lowWords {a b : String} (ha : isCamelCase a = true) (hb : isCamelCase b = true)
    (h : lowWords a = lowWords b) : a = b := by
  have hletters : ∀ {name}, isCamelCase name = true →
      ((lowWords name).map capitalize).flatten = name.toList := by
    intro name hname
    obtain ⟨hplain, hall⟩ := Bool.and_eq_true_iff.mp hname
    have hid : (words name).map (capitalize ∘ lowerFrom []) = (words name).map id :=
      List.map_congr_left fun word hword =>
        capitalize_lowerFrom (List.all_eq_true.mp hall word hword)
    rw [lowWords, List.map_map, hid, List.map_id, flatten_words (by simpa using hplain)]
  rw [← String.toList_inj, ← hletters ha, ← hletters hb, h]

end RestContract
