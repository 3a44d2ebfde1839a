import Mathlib
import RestContract.Number.Numeral

/-!
# Reading back written numbers

The decimal digits of a number have the value of the number. A number filled up with
zeros keeps its value and has exactly the given width, as long as it has no more digits.
A whole number is read back from its text with its sign.
-/

namespace RestContract.Number

/-- Digits are what digits are everywhere. -/
theorem isDigit_eq (c : Char) : isDigit c = c.isDigit := rfl

/-- The value of digits is the number that they are the digits of. -/
theorem digitsValue_eq (acc : Nat) (cs : List Char) :
    digitsValue acc cs = Nat.ofDigitChars 10 cs acc := rfl

/-- The digits of a number are digits. -/
theorem isDigit_of_mem_toDigits {n : Nat} {c : Char} (h : c ∈ Nat.toDigits 10 n) :
    isDigit c = true :=
  Nat.isDigit_of_mem_toDigits (by decide) (by decide) h

private theorem takeSign_of_isDigit {cs : List Char} (h : ∀ c ∈ cs, isDigit c = true) :
    takeSign cs = (false, cs) := by
  unfold takeSign
  split
  · exact absurd (h '-' List.mem_cons_self) (by decide)
  · exact absurd (h '+' List.mem_cons_self) (by decide)
  · rfl

private theorem ofText?_toDigits (n : Nat) :
    WholeNumeral.ofText? (Nat.toDigits 10 n) = some ⟨false, Nat.toDigits 10 n⟩ := by
  have hdigits : ∀ c ∈ Nat.toDigits 10 n, isDigit c = true := fun c => isDigit_of_mem_toDigits
  rw [WholeNumeral.ofText?, takeSign_of_isDigit hdigits]
  simpa using hdigits

private theorem ofText?_minus_toDigits (n : Nat) :
    WholeNumeral.ofText? ('-' :: Nat.toDigits 10 n) = some ⟨true, Nat.toDigits 10 n⟩ := by
  have hdigits : ∀ c ∈ Nat.toDigits 10 n, isDigit c = true := fun c => isDigit_of_mem_toDigits
  rw [WholeNumeral.ofText?, takeSign]
  simpa using hdigits

/-- A whole number is read from its text as a numeral with its value and with the digits of its
size. -/
theorem ofText?_toString (n : Int) : ∃ w, WholeNumeral.ofText? (toString n).toList = some w ∧
    w.digits = Nat.toDigits 10 n.natAbs ∧ w.value = n := by
  cases n with
  | ofNat m =>
    have htext : (toString (Int.ofNat m)).toList = Nat.toDigits 10 m := Nat.toList_repr
    refine ⟨⟨false, Nat.toDigits 10 m⟩, by rw [htext, ofText?_toDigits], rfl, ?_⟩
    rw [WholeNumeral.value, digitsValue_eq, Nat.ofDigitChars_ten_toDigits]
    rfl
  | negSucc m =>
    have htext : (toString (Int.negSucc m)).toList = '-' :: Nat.toDigits 10 (m + 1) := by
      rw [show toString (Int.negSucc m) = "-" ++ (m + 1).repr from rfl, String.toList_append,
        Nat.toList_repr]
      rfl
    refine ⟨⟨true, Nat.toDigits 10 (m + 1)⟩, by rw [htext, ofText?_minus_toDigits], rfl, ?_⟩
    rw [WholeNumeral.value, digitsValue_eq, Nat.ofDigitChars_ten_toDigits]
    rfl

/-- A number with at most so many digits, filled up with zeros,
is that many digits with its value. -/
theorem zeroPadded_toList {width n : Nat} (hw : 0 < width) (h : n < 10 ^ width) :
    (Text.zeroPadded width n).toList.length = width ∧
      (∀ c ∈ (Text.zeroPadded width n).toList, isDigit c = true) ∧
      digitsValue 0 (Text.zeroPadded width n).toList = n := by
  have hlength := (Nat.length_toDigits_le_iff (by decide) hw).mpr h
  have htext : (Text.zeroPadded width n).toList =
      List.replicate (width - (Nat.toDigits 10 n).length) '0' ++ Nat.toDigits 10 n := by
    rw [Text.zeroPadded, String.toList_append, String.toList_ofList, Nat.toString_eq_repr,
      Nat.toList_repr,
      ← String.length_toList, Nat.toList_repr]
  rw [htext]
  refine ⟨?_, ?_, ?_⟩
  · rw [List.length_append, List.length_replicate]
    omega
  · intro c hc
    rcases List.mem_append.mp hc with hc | hc
    · rw [List.eq_of_mem_replicate hc]
      rfl
    · exact isDigit_of_mem_toDigits hc
  · rw [digitsValue_eq, Nat.ofDigitChars_append, Nat.ofDigitChars_replicate_zero, Nat.mul_zero,
      Nat.ofDigitChars_ten_toDigits]

/-- A number with exactly so many digits is filled up with nothing. -/
theorem zeroPadded_of_le {width n : Nat} (hw : 1 < width) (h : 10 ^ (width - 1) ≤ n) :
    Text.zeroPadded width n = toString n := by
  have hlength : width ≤ (toString n).length := by
    rw [Nat.toString_eq_repr]
    apply Nat.le_of_not_lt
    intro hlt
    have hpos : 0 < width - 1 := by omega
    have hsmall := (Nat.length_repr_le_iff hpos).mp (show n.repr.length ≤ width - 1 by omega)
    omega
  rw [Text.zeroPadded, Nat.sub_eq_zero_of_le hlength]
  rfl

end RestContract.Number
