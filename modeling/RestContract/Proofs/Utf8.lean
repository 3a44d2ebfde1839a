import Mathlib
import RestContract.Text.Utf8

/-!
# Reading back what was written as UTF-8

The bytes of a character begin one character and nothing else: the leading byte tells how
many bytes follow and bounds the first of them, so a reader takes exactly the bytes that
were written. A text is therefore recovered from its bytes, with no replacement in it.
-/

namespace RestContract.Utf8

/-- A small number survives in a byte. -/
theorem toNat_byte {n : Nat} (h : n < 256) : (UInt8.ofNat n).toNat = n := by
  rw [UInt8.toNat_ofNat', Nat.mod_eq_of_lt h]

/-- A character is a scalar value: no half of a surrogate pair, and inside the code space. -/
theorem toNat_scalar (c : Char) : c.toNat < 0xD800 ∨ 0xDFFF < c.toNat ∧ c.toNat < 0x110000 :=
  c.valid

/-- A byte within its bounds is taken and its six bits are added. -/
theorem complete_cons {k lo hi acc n : Nat} {bs : Bytes} (hn : n < 256) (hlo : lo ≤ n)
    (hhi : n ≤ hi) :
    complete (k + 1) lo hi acc (UInt8.ofNat n :: bs) =
      ((complete k 0x80 0xBF (acc * 64 + (n - 0x80)) bs).1 + 1,
        (complete k 0x80 0xBF (acc * 64 + (n - 0x80)) bs).2) := by
  simp only [complete, toNat_byte hn, hlo, hhi, decide_true, Bool.and_self, if_true]

/-- When no byte is missing the character is there. -/
theorem complete_zero (lo hi acc : Nat) (bs : Bytes) :
    complete 0 lo hi acc bs = (0, some (Char.ofNat acc)) := rfl

/-- A leading byte from above ASCII is read with the bytes that it announces. -/
theorem step_lead {n k lo hi : Nat} {bs : Bytes} (hn : n < 256) (hascii : 0x80 ≤ n)
    (hf : followers n = some (k, lo, hi)) :
    step (UInt8.ofNat n) bs =
      ((complete k lo hi (leadBits k n) bs).1 + 1, (complete k lo hi (leadBits k n) bs).2) := by
  have h : ¬n < 0x80 := by omega
  simp only [step, toNat_byte hn, h, if_false, hf]

/-- The bounds behind a leading byte of three, which exclude long forms and surrogates. -/
private theorem followers_three {n : Nat} (h : 0xE0 ≤ n) (h' : n ≤ 0xEF) :
    followers n = some (2, if n = 0xE0 then 0xA0 else 0x80, if n = 0xED then 0x9F else 0xBF) := by
  have h1 : ¬n < 0xC2 := by omega
  have h2 : ¬n < 0xE0 := by omega
  by_cases he : n = 0xE0
  · subst he; rfl
  · by_cases hd : n = 0xED
    · subst hd; rfl
    · have h3 : n < 0xF0 := by omega
      simp [followers, h1, h2, he, hd, h3]

/-- The bounds behind a leading byte of four, which exclude long forms and what is too large. -/
private theorem followers_four {n : Nat} (h : 0xF0 ≤ n) (h' : n ≤ 0xF4) :
    followers n = some (3, if n = 0xF0 then 0x90 else 0x80, if n = 0xF4 then 0x8F else 0xBF) := by
  obtain rfl | rfl | rfl | rfl | rfl : n = 0xF0 ∨ n = 0xF1 ∨ n = 0xF2 ∨ n = 0xF3 ∨
    n = 0xF4 := by omega
  all_goals rfl

/-- The two bytes of a number below `0x800` are read as its character. -/
theorem step_two {n : Nat} (h : 0x80 ≤ n) (h' : n < 0x800) (rest : Bytes) :
    step (UInt8.ofNat (0xC0 + n / 64)) (UInt8.ofNat (0x80 + n % 64) :: rest) =
      (2, some (Char.ofNat n)) := by
  have ha : ¬0xC0 + n / 64 < 0xC2 := by omega
  have hb : 0xC0 + n / 64 < 0xE0 := by omega
  have hf : followers (0xC0 + n / 64) = some (1, 0x80, 0xBF) := by
    simp only [followers, ha, hb, if_false, if_true]
  have he : n / 64 * 64 + n % 64 = n := by omega
  rw [step_lead (by omega) (by omega) hf, complete_cons (by omega) (by omega) (by omega),
    complete_zero]
  simp only [leadBits, beq_self_eq_true, if_true, Nat.add_sub_cancel_left, he]

/-- The three bytes of a scalar value below `0x10000` are read as its character. -/
theorem step_three {n : Nat} (h : 0x800 ≤ n) (h' : n < 0x10000) (hs : n < 0xD800 ∨ 0xDFFF < n)
    (rest : Bytes) :
    step (UInt8.ofNat (0xE0 + n / 4096))
      (UInt8.ofNat (0x80 + n / 64 % 64) :: UInt8.ofNat (0x80 + n % 64) :: rest) =
        (3, some (Char.ofNat n)) := by
  have hf := followers_three (n := 0xE0 + n / 4096) (by omega) (by omega)
  have he : (n / 4096 * 64 + n / 64 % 64) * 64 + n % 64 = n := by omega
  rw [step_lead (by omega) (by omega) hf,
    complete_cons (by omega) (by split <;> omega) (by split <;> omega),
    complete_cons (by omega) (by omega) (by omega), complete_zero]
  simp [leadBits, he]

/-- The four bytes of a scalar value from `0x10000` on are read as its character. -/
theorem step_four {n : Nat} (h : 0x10000 ≤ n) (h' : n < 0x110000) (rest : Bytes) :
    step (UInt8.ofNat (0xF0 + n / 262144))
      (UInt8.ofNat (0x80 + n / 4096 % 64) :: UInt8.ofNat (0x80 + n / 64 % 64) ::
        UInt8.ofNat (0x80 + n % 64) :: rest) = (4, some (Char.ofNat n)) := by
  have hf := followers_four (n := 0xF0 + n / 262144) (by omega) (by omega)
  have he : ((n / 262144 * 64 + n / 4096 % 64) * 64 + n / 64 % 64) * 64 + n % 64 = n := by omega
  rw [step_lead (by omega) (by omega) hf,
    complete_cons (by omega) (by split <;> omega) (by split <;> omega),
    complete_cons (by omega) (by omega) (by omega),
    complete_cons (by omega) (by omega) (by omega), complete_zero]
  simp [leadBits, he]

/-- The bytes of a character are read as that character, and no others are touched. -/
theorem step_encodeChar (c : Char) :
    ∃ b bs, encodeChar c = b :: bs ∧ ∀ rest, step b (bs ++ rest) = (bs.length + 1, some c) := by
  have hs := toNat_scalar c
  have hc : Char.ofNat c.toNat = c := Char.ofNat_toNat c
  unfold encodeChar
  generalize c.toNat = n at hs hc
  subst hc
  by_cases h1 : n < 0x80
  · refine ⟨UInt8.ofNat n, [], by simp only [h1, if_true], fun rest => ?_⟩
    simp [step, toNat_byte (show n < 256 by omega), h1]
  by_cases h2 : n < 0x800
  · exact ⟨_, [_], by simp only [h1, h2, if_true, if_false], fun rest =>
      step_two (by omega) h2 rest⟩
  by_cases h3 : n < 0x10000
  · exact ⟨_, [_, _], by simp only [h1, h2, h3, if_true, if_false],
      fun rest => step_three (by omega) h3 (by omega) rest⟩
  · exact ⟨_, [_, _, _], by simp only [h1, h2, h3, if_false],
      fun rest => step_four (by omega) (by omega) rest⟩

private theorem pieces_skip (bs rest : Bytes) : pieces bs.length (bs ++ rest) = pieces 0 rest := by
  induction bs with
  | nil => rfl
  | cons b bs ih => exact ih

private theorem pieces_encodeChar (c : Char) (rest : Bytes) :
    pieces 0 (encodeChar c ++ rest) = some c :: pieces 0 rest := by
  obtain ⟨b, bs, he, hstep⟩ := step_encodeChar c
  rw [he, List.cons_append, pieces, hstep rest]
  simp only [Nat.add_sub_cancel, pieces_skip]

/-- The bytes of a text are read as its characters, each of them readable. -/
theorem pieces_encodeChars (cs : List Char) : pieces 0 (encodeChars cs) = cs.map some := by
  induction cs with
  | nil => rfl
  | cons c cs ih =>
    rw [encodeChars, List.flatMap_cons, pieces_encodeChar]
    exact congrArg (some c :: ·) ih

/-- Reading with replacements gives back the text that was written. -/
theorem decodeLossy_encodeChars (cs : List Char) : decodeLossy (encodeChars cs) = cs := by
  rw [decodeLossy, pieces_encodeChars, List.map_map]
  exact List.map_id cs

/-- A text is read back from its bytes. -/
theorem decode?_encode (s : String) : decode? (encode s) = some s := by
  have hchars : decodeChars? (encodeChars s.toList) = some s.toList := by
    rw [decodeChars?, pieces_encodeChars]
    induction s.toList with
    | nil => rfl
    | cons c cs ih =>
      rw [List.map_cons, List.mapM_cons, ih]
      rfl
  rw [decode?, encode, hchars, Option.map_some, String.ofList_toList]

end RestContract.Utf8
