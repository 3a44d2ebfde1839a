import Mathlib
import RestContract.Value.Display
import RestContract.Proofs.Number.Numeral

/-!
# Values that are shown as `none`

The lower case of a text keeps its signs and digits. The text of nearly every value holds one:
a quote, a bracket, a point or a digit. So a value whose plain text is `none` in some case is
that text or the absent value.
-/

namespace RestContract

namespace Text

/-- In lower case, no run of letters meets the signs and digits. -/
private theorem lowerRuns_first : (lowerRuns.all fun r =>
    0x41 ≤ r.first && (r.last ≤ 0x5A || 0x7F < r.first)) = true := by decide

/-- Whether a character is a sign or a digit: of the first ones, and no letter. -/
def isSign (c : Char) : Bool :=
  c.toNat < 0x41 || (0x5A < c.toNat && c.toNat < 0x61) || (0x7A < c.toNat && c.toNat < 0x80)

/-- Signs and digits are their own lower case. -/
theorem recase_of_isSign {c : Char} (h : isSign c = true) :
    recase lowerSpecials lowerRuns c = [c] := by
  simp only [isSign, Bool.or_eq_true, Bool.and_eq_true, decide_eq_true_eq] at h
  have hspecial : lowerSpecials.lookup c.toNat = none := by
    have hne : (c.toNat == 0x130) = false := by
      rw [beq_eq_false_iff_ne]
      omega
    rw [lowerSpecials, List.lookup_cons, hne, List.lookup_nil]
  have hrun : lowerRuns.find? (fun r =>
      r.first ≤ c.toNat && c.toNat ≤ r.last && (c.toNat - r.first) % r.step == 0) = none := by
    rw [List.find?_eq_none]
    intro r hr
    have hfirst := List.all_eq_true.mp lowerRuns_first r hr
    simp only [Bool.and_eq_true, Bool.or_eq_true, decide_eq_true_eq] at hfirst ⊢
    omega
  rw [recase, hspecial, shiftBy]
  simp only [hrun]

/-- Lower case keeps signs and digits. -/
theorem mem_lowerFrom_of_isSign {c : Char} (hc : isSign c = true) {cs : List Char} (h : c ∈ cs)
    (before : List Char) : c ∈ lowerFrom before cs := by
  induction cs generalizing before with
  | nil => cases h
  | cons d cs ih =>
    rw [lowerFrom]
    rcases List.mem_cons.mp h with rfl | h
    · have hsigma : c ≠ 'Σ' := by
        rintro rfl
        exact absurd hc (by decide)
      simp [hsigma, recase_of_isSign hc]
    · exact List.mem_append_right _ (ih h _)

/-- A text holds a sign or a digit. -/
def HasSign (s : String) : Prop := ∃ c ∈ s.toList, isSign c = true

/-- A text with a sign or a digit is not `none`, whatever its case. -/
theorem HasSign.lower_ne {s : String} (h : HasSign s) : lower s ≠ "none" := by
  obtain ⟨c, hmem, hc⟩ := h
  intro hs
  have hlow : c ∈ (lower s).toList := by
    rw [lower, String.toList_ofList]
    exact mem_lowerFrom_of_isSign hc hmem []
  have hword : ∀ d ∈ ['n', 'o', 'n', 'e'], isSign d = false := by simp [isSign]
  rw [hs] at hlow
  rw [hword c (by simpa using hlow)] at hc
  cases hc

/-- A text that begins with a sign or a digit holds one. -/
theorem HasSign.of_cons {c : Char} {cs : List Char} (h : isSign c = true) :
    HasSign (String.ofList (c :: cs)) :=
  ⟨c, by simp, h⟩

/-- A text holds the signs of its first part. -/
theorem HasSign.append_right {s : String} (h : HasSign s) (t : String) : HasSign (s ++ t) := by
  obtain ⟨c, hmem, hc⟩ := h
  exact ⟨c, by simp [hmem], hc⟩

private theorem HasSign.append_left {t : String} (h : HasSign t) (s : String) :
    HasSign (s ++ t) := by
  obtain ⟨c, hmem, hc⟩ := h
  exact ⟨c, by simp [hmem], hc⟩

end Text

open Text (HasSign isSign)

private theorem Number.mem_positional (digits : List Char) (lead : Int) :
    '.' ∈ positional digits lead := by
  unfold positional
  split <;> simp

private theorem Number.hasSign_scientific (style : Style) (digits : List Char) (lead : Int) :
    ∃ c ∈ scientific style digits lead, isSign c = true := by
  unfold scientific
  by_cases h : lead < 0
  · exact ⟨'-', by simp [h], by simp [isSign]⟩
  · exact ⟨'+', by simp [h], by simp [isSign]⟩

/-- The text of a floating-point number holds a sign or a digit, unless it is none or infinite. -/
theorem Number.hasSign_write (style : Style) (x : Float) :
    style.write x ∈ [style.notANumber, style.infinite, style.negativeInfinite] ∨
      HasSign (style.write x) := by
  unfold Style.write
  dsimp only
  split
  · simp
  split
  · split <;> simp
  refine Or.inr ?_
  have hbody : ∀ body : List Char, (∃ c ∈ body, isSign c = true) → ∀ negative : Prop,
      ∀ _ : Decidable negative,
        HasSign (String.ofList (if negative then '-' :: body else body)) := by
    rintro body ⟨c, hmem, hc⟩ negative _
    refine ⟨c, ?_, hc⟩
    split <;> simp [hmem]
  refine hbody _ ?_ _ _
  split
  · exact ⟨'.', by simp, by simp [isSign]⟩
  unfold Style.decimal
  dsimp only
  split
  · exact ⟨'.', mem_positional _ _, by simp [isSign]⟩
  · exact hasSign_scientific _ _ _

private theorem Text.isSign_of_isDigit {c : Char} (h : c.isDigit = true) : isSign c = true := by
  simp only [Char.isDigit, Bool.and_eq_true, decide_eq_true_eq] at h
  have hlast : c.toNat ≤ 0x39 := h.2
  simp only [isSign, Bool.or_eq_true, decide_eq_true_eq]
  omega

/-- The text of a whole number holds a digit. -/
theorem Number.hasSign_toString (n : Int) : HasSign (toString n) := by
  have hnat : ∀ m : Nat, HasSign (toString m) := by
    intro m
    obtain ⟨c, cs, hdigits⟩ := List.exists_cons_of_ne_nil (Nat.toDigits_ne_nil (b := 10) (n := m))
    have hdigit : Char.isDigit c = true := isDigit_of_mem_toDigits (n := m) (by simp [hdigits])
    have htext : toString m = String.ofList (Nat.toDigits 10 m) := rfl
    rw [htext, hdigits]
    exact .of_cons (Text.isSign_of_isDigit hdigit)
  cases n with
  | ofNat m => exact hnat m
  | negSucc m => exact (hnat (m + 1)).append_left "-"

private theorem Text.isSign_quoteMark (cs : List Char) : isSign (quoteMark cs) = true := by
  unfold quoteMark
  split <;> simp [isSign]

namespace Value

/-- Whether the text of a value can be a word. -/
def canBeWord : Value → Bool
  | .null | .bool _ | .float _ | .shared _ _ => true
  | _ => false

/-- Whether a value is shown as the absent one, inside the containers of the given labels. -/
def isNullIn (outer : List Nat) : Value → Bool
  | .null => true
  | .shared label content => !outer.contains label && content.isNullIn (label :: outer)
  | _ => false

private theorem isNullIn_of_canBeWord {v : Value} (h : v.canBeWord = false) (outer : List Nat) :
    v.isNullIn outer = false := by
  cases v <;> first | rfl | cases h

/-- What is shown where a list or a map stands inside itself begins with a bracket. -/
theorem hasSign_hint (isMap : Bool) : HasSign (hint isMap) := by
  cases isMap <;> exact .of_cons (by simp [isSign])

private theorem hasSign_quotedMoment (t : Moment) : HasSign (quotedMoment t) := by
  have hopen : HasSign "datetime.datetime(" := ⟨'(', by simp, by simp [isSign]⟩
  unfold quotedMoment
  exact ((hopen.append_right _).append_right _).append_right _

/-- The quoted text of most kinds of values holds a quote, a bracket or a digit. -/
theorem hasSign_quotedIn {v : Value} (h : v.canBeWord = false) (outer : List Nat) :
    HasSign (v.quotedIn outer) := by
  cases v with
  | null => cases h
  | bool b => cases h
  | float x => cases h
  | shared label content => cases h
  | int n => exact Number.hasSign_toString n
  | text s => exact .of_cons (Text.isSign_quoteMark s.toList)
  | bytes b =>
    have hmark := Text.isSign_quoteMark (b.map fun c => Char.ofNat c.toNat)
    exact ⟨_, by simp [quotedIn, Text.quotedBytes], hmark⟩
  | date d => exact ⟨'(', by simp [quotedIn], by simp [isSign]⟩
  | moment t =>
    rw [quotedIn]
    exact hasSign_quotedMoment t
  | member m => exact ⟨'<', by simp [quotedIn, quotedMember], by simp [isSign]⟩
  | list items => exact ⟨'[', by simp [quotedIn], by simp [isSign]⟩
  | pair a b => exact ⟨'(', by simp [quotedIn], by simp [isSign]⟩
  | map entries => exact ⟨'\x7b', by simp [quotedIn], by simp [isSign]⟩
  | set items =>
    cases items with
    | nil => exact ⟨'(', by simp [quotedIn], by simp [isSign]⟩
    | cons item items => exact ⟨'\x7b', by simp [quotedIn], by simp [isSign]⟩
  | record tag fields => exact ⟨'(', by simp [quotedIn], by simp [isSign]⟩
  | foreign kind => exact ⟨'<', by simp [quotedIn], by simp [isSign]⟩
  | again label isMap => exact hasSign_hint isMap

private theorem lower_write_ne (x : Float) :
    Text.lower (Number.Style.display.write x) ≠ "none" := by
  rcases Number.hasSign_write .display x with h | h
  · have hwords : ∀ s ∈ [Number.Style.display.notANumber, Number.Style.display.infinite,
        Number.Style.display.negativeInfinite], Text.lower s ≠ "none" := by decide
    exact hwords _ h
  · exact h.lower_ne

/-- Only the absent value has a quoted text that is `none` in some case. -/
theorem lower_quotedIn (v : Value) (outer : List Nat) :
    Text.lower (v.quotedIn outer) = "none" ↔ v.isNullIn outer = true := by
  cases hw : v.canBeWord with
  | false =>
    rw [isNullIn_of_canBeWord hw]
    exact iff_of_false (hasSign_quotedIn hw outer).lower_ne Bool.false_ne_true
  | true =>
    cases v with
    | null => exact iff_of_true (by rw [quotedIn]; decide) rfl
    | bool b =>
      rw [quotedIn]
      exact iff_of_false (by cases b <;> decide) Bool.false_ne_true
    | float x =>
      rw [quotedIn]
      exact iff_of_false (lower_write_ne x) Bool.false_ne_true
    | shared label content =>
      rw [quotedIn, isNullIn]
      cases outer.contains label with
      | true => exact iff_of_false (hasSign_hint _).lower_ne Bool.false_ne_true
      | false => exact lower_quotedIn content (label :: outer)
    | _ => cases hw

private theorem hasSign_quotedFields (outer : List Nat) (name : String) (v : Value)
    (fields : List (String × Value)) :
    HasSign (" ".intercalate (quotedFields outer ((name, v) :: fields))) := by
  have hfirst : HasSign (name ++ "=" ++ v.quotedIn outer) := ⟨'=', by simp, by simp [isSign]⟩
  rw [quotedFields]
  cases quotedFields outer fields with
  | nil => simpa using hfirst
  | cons field rest =>
    rw [String.intercalate_cons_cons]
    exact (hfirst.append_right _).append_right _

private theorem hasSign_dateText (d : Date) : HasSign d.text := by
  have hyear : HasSign (Text.zeroPadded 4 d.year ++ "-") := ⟨'-', by simp, by simp [isSign]⟩
  exact ((hyear.append_right _).append_right _).append_right _

/-- Of what is no text, only the absent value is shown as `none` in some case. -/
theorem lower_plain_of_ne_text {v : Value} (h : ∀ s, v ≠ .text s) :
    Text.lower v.plain = "none" ↔ v.isNullIn [] = true := by
  cases v with
  | text s => exact absurd rfl (h s)
  | date d => exact iff_of_false (hasSign_dateText d).lower_ne Bool.false_ne_true
  | moment t =>
    have htext : HasSign (t.text " ") :=
      (((hasSign_dateText t.date).append_right _).append_right _).append_right _
    exact iff_of_false htext.lower_ne Bool.false_ne_true
  | member m =>
    have hpoint : HasSign (m.className ++ ".") := ⟨'.', by simp, by simp [isSign]⟩
    exact iff_of_false (hpoint.append_right m.name).lower_ne Bool.false_ne_true
  | record tag fields =>
    refine iff_of_false ?_ Bool.false_ne_true
    cases fields with
    | nil =>
      rw [plain, quotedFields]
      decide
    | cons field fields => exact (hasSign_quotedFields [] field.1 field.2 fields).lower_ne
  | _ => exact lower_quotedIn _ []

/-- A value is shown as `none` in some case exactly when it is a text that is `none` in some case,
or the absent value. -/
theorem lower_plain {v : Value} :
    Text.lower v.plain = "none" ↔
      (∃ s, v = .text s ∧ Text.lower s = "none") ∨ v.isNullIn [] = true := by
  by_cases htext : ∃ s, v = .text s
  · obtain ⟨s, rfl⟩ := htext
    simp [isNullIn]
  · rw [lower_plain_of_ne_text fun s hs => htext ⟨s, hs⟩]
    exact (or_iff_right fun ⟨s, hs, _⟩ => htext ⟨s, hs⟩).symm

/-- The absent value always has a text. -/
theorem unquoted?_of_isNullIn (v : Value) (outer : List Nat) (h : v.isNullIn outer = true) :
    v.unquoted? = none := by
  cases v with
  | null => rfl
  | shared label content =>
    rw [isNullIn, Bool.and_eq_true] at h
    rw [unquoted?]
    exact unquoted?_of_isNullIn content _ h.2
  | _ => cases h

end Value

end RestContract
