import RestContract.Proofs.Number.Numeral

/-!
# The order of written numbers

Texts are compared character by character, and a digit is a greater character than
another one exactly when it is worth more. So numbers written with equally many digits
come in the order of their texts, and behind equal numbers the rest of the text decides.
-/

namespace RestContract

/-- Behind beginnings of one length the rest counts only where the beginnings are equal. -/
theorem Text.append_lt_append_iff {front front' : List Char} (h : front.length = front'.length)
    (back back' : List Char) :
    front ++ back < front' ++ back' ↔ front < front' ∨ front = front' ∧ back < back' := by
  induction front generalizing front' with
  | nil =>
    obtain rfl := List.length_eq_zero_iff.mp h.symm
    simp
  | cons c front ih =>
    cases front' with
    | nil => cases h
    | cons c' front' =>
      rw [List.cons_append, List.cons_append, List.cons_lt_cons_iff, List.cons_lt_cons_iff,
        ih (Nat.succ.inj h), List.cons.injEq]
      tauto

namespace Number

/-- What a digit is worth. -/
theorem digit_bounds {c : Char} (h : isDigit c = true) : 0x30 ≤ c.toNat ∧ c.toNat < 0x3A := by
  simp only [isDigit, Bool.and_eq_true, decide_eq_true_eq, Char.le_def, UInt32.le_iff_toNat_le] at h
  exact ⟨h.1, Nat.lt_succ_of_le h.2⟩

/-- Digits behind a number make it greater, but not as great as the next number with zeros. -/
theorem digitsValue_bounds {cs : List Char} (h : ∀ c ∈ cs, isDigit c = true) (acc : Nat) :
    acc * 10 ^ cs.length ≤ digitsValue acc cs ∧
      digitsValue acc cs < (acc + 1) * 10 ^ cs.length := by
  induction cs generalizing acc with
  | nil => simp [digitsValue]
  | cons c cs ih =>
    obtain ⟨hlow, hhigh⟩ := digit_bounds (h c List.mem_cons_self)
    obtain ⟨hmin, hmax⟩ := ih (fun d hd => h d (List.mem_cons_of_mem _ hd))
      (10 * acc + (c.toNat - 0x30))
    have hstep : digitsValue acc (c :: cs) = digitsValue (10 * acc + (c.toNat - 0x30)) cs := rfl
    rw [hstep, List.length_cons, pow_succ]
    constructor
    · calc acc * (10 ^ cs.length * 10) = (10 * acc) * 10 ^ cs.length := by ring
        _ ≤ (10 * acc + (c.toNat - 0x30)) * 10 ^ cs.length :=
          Nat.mul_le_mul_right _ (Nat.le_add_right _ _)
        _ ≤ _ := hmin
    · calc digitsValue (10 * acc + (c.toNat - 0x30)) cs
          < (10 * acc + (c.toNat - 0x30) + 1) * 10 ^ cs.length := hmax
        _ ≤ (10 * (acc + 1)) * 10 ^ cs.length := Nat.mul_le_mul_right _ (by omega)
        _ = (acc + 1) * (10 ^ cs.length * 10) := by ring

private theorem digitsValue_lt {as bs : List Char} (ha : ∀ c ∈ as, isDigit c = true)
    (hb : ∀ c ∈ bs, isDigit c = true) (hl : as.length = bs.length) {m n : Nat} (h : m < n) :
    digitsValue m as < digitsValue n bs :=
  calc digitsValue m as < (m + 1) * 10 ^ as.length := (digitsValue_bounds ha m).2
    _ ≤ n * 10 ^ bs.length := hl ▸ Nat.mul_le_mul_right _ h
    _ ≤ digitsValue n bs := (digitsValue_bounds hb n).1

/-- Equally many digits are compared by their value. -/
theorem lt_iff_digitsValue_lt {as bs : List Char} (ha : ∀ c ∈ as, isDigit c = true)
    (hb : ∀ c ∈ bs, isDigit c = true) (hl : as.length = bs.length) (acc : Nat) :
    as < bs ↔ digitsValue acc as < digitsValue acc bs := by
  induction as generalizing bs acc with
  | nil =>
    obtain rfl := List.length_eq_zero_iff.mp hl.symm
    simp
  | cons a as ih =>
    cases bs with
    | nil => cases hl
    | cons b bs =>
      have hl' : as.length = bs.length := Nat.succ.inj hl
      have ha' := fun c hc => ha c (List.mem_cons_of_mem a hc)
      have hb' := fun c hc => hb c (List.mem_cons_of_mem b hc)
      obtain ⟨hlow, -⟩ := digit_bounds (ha a List.mem_cons_self)
      obtain ⟨hlow', -⟩ := digit_bounds (hb b List.mem_cons_self)
      have hstep : ∀ (c : Char) cs, digitsValue acc (c :: cs) =
          digitsValue (10 * acc + (c.toNat - 0x30)) cs := fun _ _ => rfl
      rw [List.cons_lt_cons_iff, hstep, hstep]
      rcases Nat.lt_trichotomy a.toNat b.toNat with hlt | heq | hgt
      · exact iff_of_true (.inl hlt) (digitsValue_lt ha' hb' hl' (by omega))
      · obtain rfl : a = b := Char.toNat_inj.mp heq
        simpa using ih ha' hb' hl' _
      · have hless := digitsValue_lt hb' ha' hl'.symm
          (show 10 * acc + (b.toNat - 0x30) < 10 * acc + (a.toNat - 0x30) by omega)
        refine iff_of_false ?_ (Nat.not_lt.mpr (Nat.le_of_lt hless))
        rintro (hlt | ⟨rfl, -⟩)
        · exact absurd hlt (Nat.not_lt.mpr (Nat.le_of_lt hgt))
        · exact Nat.lt_irrefl _ hgt

/-- Numbers filled up to one width are compared by their value, and then by what follows. -/
theorem zeroPadded_append_lt_iff {width m n : Nat} (hw : 0 < width) (hm : m < 10 ^ width)
    (hn : n < 10 ^ width) (back back' : List Char) :
    (Text.zeroPadded width m).toList ++ back < (Text.zeroPadded width n).toList ++ back' ↔
      m < n ∨ m = n ∧ back < back' := by
  obtain ⟨hml, hmd, hmv⟩ := zeroPadded_toList hw hm
  obtain ⟨hnl, hnd, hnv⟩ := zeroPadded_toList hw hn
  have hsame : (Text.zeroPadded width m).toList = (Text.zeroPadded width n).toList ↔ m = n := by
    constructor
    · intro h
      rw [← hmv, h, hnv]
    · rintro rfl
      rfl
  rw [Text.append_lt_append_iff (hml.trans hnl.symm),
    lt_iff_digitsValue_lt hmd hnd (hml.trans hnl.symm) 0, hmv, hnv, hsame]

end Number

end RestContract
