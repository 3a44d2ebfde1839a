import RestContract.Text.Percent
import RestContract.Proofs.Utf8

/-!
# Reading back what was percent-coded

Every escape is read as the byte that it was made from, and a safe character stands for
its own bytes. So the bytes of a coded text are those of the text, whatever it holds, as
long as the percent sign itself is escaped. Escapes bring no slashes into a text.
-/

namespace RestContract.Percent

private theorem hexValue?_hexUpper {n : Nat} (h : n < 16) : hexValue? (hexUpper n) = some n := by
  have hall : ∀ m < 16, hexValue? (hexUpper m) = some m := by decide
  exact hall n h

private theorem hexUpper_ne_slash {n : Nat} (h : n < 16) : hexUpper n ≠ '/' := by
  have hall : ∀ m < 16, hexUpper m ≠ '/' := by decide
  exact hall n h

/-- The escape of a byte is read as that byte. -/
theorem bytes_escapeByte (b : UInt8) (cs : List Char) :
    bytes (escapeByte b ++ cs) = b :: bytes cs := by
  have hb : b.toNat < 256 := b.toNat_lt
  have he : 16 * (b.toNat / 16) + b.toNat % 16 = b.toNat := Nat.div_add_mod _ _
  have hhigh : hexValue? (hexUpper (b.toNat / 16)) = some (b.toNat / 16) :=
    hexValue?_hexUpper (by omega)
  have hlow : hexValue? (hexUpper (b.toNat % 16)) = some (b.toNat % 16) :=
    hexValue?_hexUpper (by omega)
  simp only [escapeByte, List.cons_append, List.nil_append, bytes, hhigh, hlow, he,
    UInt8.ofNat_toNat]

private theorem bytes_escapeBytes (bs : Bytes) (cs : List Char) :
    bytes (bs.flatMap escapeByte ++ cs) = bs ++ bytes cs := by
  induction bs with
  | nil => rfl
  | cons b bs ih =>
    rw [List.flatMap_cons, List.append_assoc, bytes_escapeByte, ih, List.cons_append]

/-- A character other than the percent sign is read as its own bytes. -/
theorem bytes_cons {c : Char} (h : c ≠ '%') (cs : List Char) :
    bytes (c :: cs) = Utf8.encodeChar c ++ bytes cs := by
  rw [bytes]
  rintro a b rest rfl
  exact absurd rfl h

/-- A coded character is read as the bytes of the character. -/
theorem bytes_escapeChar {safe : Char → Bool} (h : safe '%' = false) (c : Char) (cs : List Char) :
    bytes (escapeChar safe c ++ cs) = Utf8.encodeChar c ++ bytes cs := by
  unfold escapeChar
  by_cases hc : safe c = true
  · have hne : c ≠ '%' := by
      rintro rfl
      exact Bool.false_ne_true (h.symm.trans hc)
    rw [if_pos hc, List.singleton_append, bytes_cons hne]
  · rw [if_neg hc, bytes_escapeBytes]

private theorem bytes_escape {safe : Char → Bool} (h : safe '%' = false) (cs : List Char) :
    bytes (escape safe cs) = Utf8.encodeChars cs := by
  induction cs with
  | nil => rfl
  | cons c cs ih =>
    rw [escape, List.flatMap_cons, bytes_escapeChar h]
    exact congrArg (Utf8.encodeChar c ++ ·) ih

/-- Percent coding loses nothing. -/
theorem unescape_escape {safe : Char → Bool} (h : safe '%' = false) (cs : List Char) :
    unescape (escape safe cs) = cs := by
  rw [unescape, bytes_escape h, Utf8.decodeLossy_encodeChars]

/-- A safe character is coded as itself. -/
theorem escapeChar_safe {safe : Char → Bool} {c : Char} (h : safe c = true) :
    escapeChar safe c = [c] := by
  rw [escapeChar, if_pos h]

/-- An escape is a percent sign before hexadecimal digits, which may be safe. -/
theorem mem_escapeByte {safe : Char → Bool} (hhex : ∀ n < 16, safe (hexUpper n) = true) {b : UInt8}
    {c : Char} (h : c ∈ escapeByte b) : safe c = true ∨ c = '%' := by
  have hlt : b.toNat < 256 := b.toNat_lt
  simp only [escapeByte, List.mem_cons, List.not_mem_nil, or_false] at h
  rcases h with rfl | rfl | rfl
  · exact .inr rfl
  · exact .inl (hhex _ (by omega))
  · exact .inl (hhex _ (by omega))

/-- So every character is coded with safe ones and percent signs. -/
theorem mem_escapeChar {safe : Char → Bool} (hhex : ∀ n < 16, safe (hexUpper n) = true)
    {c d : Char} (h : d ∈ escapeChar safe c) : safe d = true ∨ d = '%' := by
  unfold escapeChar at h
  by_cases hsafe : safe c = true
  · rw [if_pos hsafe, List.mem_singleton] at h
    exact .inl (h ▸ hsafe)
  · rw [if_neg hsafe] at h
    obtain ⟨b, -, hb⟩ := List.mem_flatMap.mp h
    exact mem_escapeByte hhex hb

/-- No character is coded as nothing. -/
theorem escapeChar_ne_nil (safe : Char → Bool) (c : Char) : escapeChar safe c ≠ [] := by
  obtain ⟨b, bs, he, -⟩ := Utf8.step_encodeChar c
  unfold escapeChar
  split
  · exact List.cons_ne_nil _ _
  · simp [he, escapeByte]

/-- Only a slash is coded with a slash. -/
theorem slash_notMem_escapeChar (safe : Char → Bool) {c : Char} (h : c ≠ '/') :
    '/' ∉ escapeChar safe c := by
  unfold escapeChar
  split
  · simpa using h.symm
  · intro hm
    obtain ⟨b, -, hb⟩ := List.mem_flatMap.mp hm
    have hlt : b.toNat < 256 := b.toNat_lt
    simp only [escapeByte, List.mem_cons, List.not_mem_nil, or_false] at hb
    rcases hb with hb | hb | hb
    · exact absurd hb (by decide)
    · exact hexUpper_ne_slash (by omega) hb.symm
    · exact hexUpper_ne_slash (by omega) hb.symm

/-- A coded text is empty only when the text is. -/
theorem escape_ne_nil (safe : Char → Bool) {cs : List Char} (h : cs ≠ []) :
    escape safe cs ≠ [] := by
  cases cs with
  | nil => exact absurd rfl h
  | cons c cs =>
    rw [escape, List.flatMap_cons]
    exact fun he => escapeChar_ne_nil safe c (List.append_eq_nil_iff.mp he).1

/-- Coding brings no slash into a text. -/
theorem slash_notMem_escape (safe : Char → Bool) {cs : List Char} (h : '/' ∉ cs) :
    '/' ∉ escape safe cs := by
  intro hm
  obtain ⟨c, hc, hm⟩ := List.mem_flatMap.mp hm
  exact slash_notMem_escapeChar safe (fun he => h (he ▸ hc)) hm

end RestContract.Percent
