import Mathlib
import RestContract.Number.Style
import RestContract.Proofs.Number.Numeral

/-!
# Written floating-point numbers are decimal numerals

A finite number is written with at least one digit before the point or the exponent, so its text is
a decimal numeral. The names of what is not finite begin with a letter, and are none.
-/

namespace RestContract.Number

open Float.Model (Format UnpackedFloat)

/-- A number is finite exactly when the bits of its exponent are not all ones. -/
theorem isFinite_iff (x : Float) :
    x.isFinite = true ↔ x.toBits.toNat % Nat.pow 2 63 < 0x7FF * Nat.pow 2 52 := by
  obtain ⟨⟨bits, valid⟩⟩ := x
  let word : BitVec Format.binary64.numBits := bits.toBitVec
  change (UnpackedFloat.unpack .binary64 word).isFinite = true ↔
    bits.toNat % Nat.pow 2 63 < 0x7FF * Nat.pow 2 52
  have hlevel : (UnpackedFloat.unpackExponent word).toNat = bits.toNat / 2 ^ 52 % 2 ^ 11 := by
    change (bits.toNat >>> 52) % 2 ^ 11 = _
    rw [Nat.shiftRight_eq_div_pow]
  have hones : UnpackedFloat.unpackExponent word = -1#11 ↔
      bits.toNat / 2 ^ 52 % 2 ^ 11 = 2 ^ 11 - 1 := by
    rw [← BitVec.toNat_inj, hlevel]
    exact Iff.rfl
  have hfinite : (UnpackedFloat.unpack .binary64 word).isFinite = true ↔
      ¬bits.toNat / 2 ^ 52 % 2 ^ 11 = 2 ^ 11 - 1 := by
    rw [← hones]
    unfold UnpackedFloat.unpack
    by_cases h : UnpackedFloat.unpackExponent word = -1#11
    · simp only [h, if_true, not_true_eq_false, iff_false]
      split <;> exact Bool.false_ne_true
    · simp only [h, if_false, not_false_eq_true, iff_true]
      split
      · split <;> rfl
      · rfl
  rw [hfinite]
  change ¬bits.toNat / 2 ^ 52 % 2 ^ 11 = 2 ^ 11 - 1 ↔ bits.toNat % 2 ^ 63 < 0x7FF * 2 ^ 52
  omega

/-- An exponent with a sign and digits, or nothing. -/
def IsExponent (cs : List Char) : Prop :=
  cs = [] ∨ ∃ sign digits, cs = 'e' :: sign :: digits ∧ (sign = '+' ∨ sign = '-') ∧ digits ≠ [] ∧
    ∀ c ∈ digits, isDigit c = true

private theorem IsExponent.isSome {cs : List Char} (h : IsExponent cs) :
    (exponent? cs).isSome = true := by
  obtain rfl | ⟨sign, digits, rfl, hsign, hne, hdigits⟩ := h
  · rfl
  · have hall : digits.all isDigit = true := List.all_eq_true.mpr hdigits
    have htext : (WholeNumeral.ofText? (sign :: digits)).isSome = true := by
      obtain rfl | rfl := hsign <;> simp [WholeNumeral.ofText?, takeSign, hne, hall]
    simp [exponent?, htext]

private theorem IsExponent.head {cs : List Char} (h : IsExponent cs) :
    ∀ c, cs.head? = some c → isDigit c = false ∧ c ≠ '.' := by
  obtain rfl | ⟨sign, digits, rfl, -⟩ := h
  · simp
  · rintro c ⟨⟩
    exact ⟨by decide, by decide⟩

/-- Digits end where something else begins. -/
theorem span_isDigit {ds cs : List Char} (hds : ∀ c ∈ ds, isDigit c = true)
    (hcs : ∀ c, cs.head? = some c → isDigit c = false) :
    (ds ++ cs).takeWhile isDigit = ds ∧ (ds ++ cs).dropWhile isDigit = cs := by
  rw [List.takeWhile_append_of_pos hds, List.dropWhile_append_of_pos hds]
  cases cs with
  | nil => simp
  | cons c rest =>
    have hc := hcs c rfl
    simp [hc]

/-- Digits, possibly with a point and places, and possibly with an exponent. -/
inductive IsDecimal : List Char → Prop where
  /-- Without a point. -/
  | whole {whole cs : List Char} : whole ≠ [] → (∀ c ∈ whole, isDigit c = true) → IsExponent cs →
      IsDecimal (whole ++ cs)
  /-- With a point and places. -/
  | places {whole places cs : List Char} : whole ≠ [] → (∀ c ∈ whole, isDigit c = true) →
      (∀ c ∈ places, isDigit c = true) → IsExponent cs →
      IsDecimal (whole ++ '.' :: (places ++ cs))

private theorem IsDecimal.ne_nil {cs : List Char} (h : IsDecimal cs) : cs ≠ [] := by
  cases h with
  | whole hne _ _ | places hne _ _ _ => exact List.append_ne_nil_of_left_ne_nil hne _

/-- A decimal begins with a digit. -/
theorem IsDecimal.takeSign_eq {cs : List Char} (h : IsDecimal cs) : takeSign cs = (false, cs) := by
  obtain ⟨c, rest, rfl, hc⟩ : ∃ c rest, cs = c :: rest ∧ isDigit c = true := by
    cases h with
    | whole hne hwhole _ | places hne hwhole _ _ =>
      obtain ⟨c, rest, rfl⟩ := List.exists_cons_of_ne_nil hne
      exact ⟨c, _, rfl, hwhole c List.mem_cons_self⟩
  unfold takeSign
  split
  next heq =>
    rw [(List.cons.inj heq).1] at hc
    exact absurd hc (by decide)
  next heq =>
    rw [(List.cons.inj heq).1] at hc
    exact absurd hc (by decide)
  next => rfl

/-- What is a decimal behind its sign is read. -/
theorem IsDecimal.isSome {cs text : List Char} {negative : Bool} (h : IsDecimal cs)
    (ht : takeSign text = (negative, cs)) : (DecimalNumeral.ofText? text).isSome = true := by
  unfold DecimalNumeral.ofText?
  rw [ht]
  cases h with
  | @whole whole cs hne hwhole hcs =>
    obtain ⟨htake, hdrop⟩ := span_isDigit hwhole fun c hc => (hcs.head c hc).1
    have hexponent := hcs.isSome
    simp only [htake, hdrop]
    split
    next rest => exact absurd rfl (hcs.head '.' rfl).2
    next => simp [hne, hexponent]
  | @places whole places cs hne hwhole hplaces hcs =>
    have hpoint : ∀ c, ('.' :: (places ++ cs)).head? = some c → isDigit c = false := by
      rintro c ⟨⟩
      decide
    obtain ⟨htake, hdrop⟩ := span_isDigit hwhole hpoint
    obtain ⟨-, hrest⟩ := span_isDigit hplaces fun c hc => (hcs.head c hc).1
    have hexponent := hcs.isSome
    simp [htake, hdrop, hrest, hne, hexponent]

/-- Digits around a point are a decimal. -/
theorem isDecimal_positional {digits : List Char} (hdigits : ∀ c ∈ digits, isDigit c = true)
    (lead : Int) : IsDecimal (positional digits lead) := by
  have hzero : isDigit '0' = true := by decide
  unfold positional
  split
  · have hplaces : ∀ c ∈ List.replicate (-lead - 1).toNat '0' ++ digits, isDigit c = true := by
      intro c hc
      rcases List.mem_append.mp hc with hc | hc
      · rw [List.eq_of_mem_replicate hc, hzero]
      · exact hdigits c hc
    have hwhole : ∀ c ∈ ['0'], isDigit c = true := by simpa using hzero
    have hdecimal := IsDecimal.places (List.cons_ne_nil _ _) hwhole hplaces (.inl rfl)
    simpa using hdecimal
  · dsimp only
    generalize hwhole : lead.toNat + 1 = whole
    have hfilled : ∀ c ∈ digits ++ List.replicate (whole - digits.length) '0',
        isDigit c = true := by
      intro c hc
      rcases List.mem_append.mp hc with hc | hc
      · exact hdigits c hc
      · rw [List.eq_of_mem_replicate hc, hzero]
    have hlength : whole ≤ (digits ++ List.replicate (whole - digits.length) '0').length := by
      rw [List.length_append, List.length_replicate]
      omega
    generalize digits ++ List.replicate (whole - digits.length) '0' = filled at hfilled hlength
    have hne : filled.take whole ≠ [] := by
      intro h
      have hnone := congrArg List.length h
      rw [List.length_take, List.length_nil] at hnone
      omega
    have hplaces : ∀ c ∈ (if (filled.drop whole).isEmpty then ['0'] else filled.drop whole),
        isDigit c = true := by
      intro c hc
      split at hc
      · rw [List.mem_singleton.mp hc, hzero]
      · exact hfilled c (List.mem_of_mem_drop hc)
    have hdecimal := IsDecimal.places hne (fun c hc => hfilled c (List.mem_of_mem_take hc)) hplaces
      (.inl rfl)
    simpa using hdecimal

/-- A number filled up with zeros has digits only, and at least one. -/
theorem isDigit_zeroPadded (width n : Nat) :
    (Text.zeroPadded width n).toList ≠ [] ∧
      ∀ c ∈ (Text.zeroPadded width n).toList, isDigit c = true := by
  have htext : (Text.zeroPadded width n).toList =
      List.replicate (width - (toString n).length) '0' ++ Nat.toDigits 10 n := by
    rw [Text.zeroPadded, String.toList_append, String.toList_ofList, Nat.toString_eq_repr,
      Nat.toList_repr]
  rw [htext]
  constructor
  · simp [Nat.toDigits_ne_nil]
  · intro c hc
    rcases List.mem_append.mp hc with hc | hc
    · rw [List.eq_of_mem_replicate hc]
      decide
    · exact isDigit_of_mem_toDigits hc

/-- Digits with an exponent are a decimal. -/
theorem isDecimal_scientific (style : Style) {digits : List Char} (hne : digits ≠ [])
    (hdigits : ∀ c ∈ digits, isDigit c = true) (lead : Int) :
    IsDecimal (scientific style digits lead) := by
  obtain ⟨first, places, rfl⟩ := List.exists_cons_of_ne_nil hne
  rw [List.forall_mem_cons] at hdigits
  obtain ⟨hfirst, hplaces⟩ := hdigits
  have hwhole : ∀ c ∈ [first], isDigit c = true := by simpa using hfirst
  have hexponent : IsExponent ('e' :: (if lead < 0 then '-' else '+') ::
      (Text.zeroPadded style.exponentWidth lead.natAbs).toList) := by
    obtain ⟨hsome, hall⟩ := isDigit_zeroPadded style.exponentWidth lead.natAbs
    refine .inr ⟨_, _, rfl, ?_, hsome, hall⟩
    split
    · exact .inr rfl
    · exact .inl rfl
  unfold scientific
  dsimp only
  generalize 'e' :: (if lead < 0 then '-' else '+') ::
    (Text.zeroPadded style.exponentWidth lead.natAbs).toList = cs at hexponent
  by_cases hempty : places.isEmpty = true
  · have hdecimal := IsDecimal.whole (List.cons_ne_nil _ _) hwhole hexponent
    simpa [hempty] using hdecimal
  · have hdecimal := IsDecimal.places (List.cons_ne_nil _ _) hwhole hplaces hexponent
    simpa [hempty] using hdecimal

/-- The digits of a positive decimal are placed around a point or written with an exponent. -/
theorem isDecimal_decimal (style : Style) (d : Decimal) : IsDecimal (style.decimal d) := by
  have htext : (toString d.digits).toList = Nat.toDigits 10 d.digits := Nat.toList_repr
  have hdigits : ∀ c ∈ Nat.toDigits 10 d.digits, isDigit c = true := fun c =>
    isDigit_of_mem_toDigits
  unfold Style.decimal
  dsimp only
  rw [htext]
  split
  · exact isDecimal_positional hdigits _
  · exact isDecimal_scientific style Nat.toDigits_ne_nil hdigits _

/-- A number is written for the wire as a decimal numeral exactly when it is finite. -/
theorem isSome_ofText?_write_iff (x : Float) :
    (DecimalNumeral.ofText? (Style.display.write x).toList).isSome = true ↔ x.isFinite = true := by
  have hnan : (DecimalNumeral.ofText? Style.display.notANumber.toList).isSome = false := by decide
  have hinf : (DecimalNumeral.ofText? Style.display.infinite.toList).isSome = false := by decide
  have hneg : (DecimalNumeral.ofText? Style.display.negativeInfinite.toList).isSome = false := by
    decide
  rw [isFinite_iff]
  unfold Style.write
  dsimp only
  generalize x.toBits.toNat % Nat.pow 2 63 = size
  generalize 0x7FF * Nat.pow 2 52 = bound
  by_cases hnone : size > bound
  · rw [if_pos hnone]
    refine iff_of_false ?_ (by omega)
    rw [hnan]
    exact Bool.false_ne_true
  by_cases hinfinite : size = bound
  · rw [if_neg hnone, if_pos hinfinite]
    refine iff_of_false ?_ (by omega)
    split
    · rw [hneg]
      exact Bool.false_ne_true
    · rw [hinf]
      exact Bool.false_ne_true
  rw [if_neg hnone, if_neg hinfinite, String.toList_ofList]
  refine iff_of_true ?_ (by omega)
  have hzero : IsDecimal "0.0".toList := by
    have hdigit : isDigit '0' = true := by decide
    have hdigits : ∀ c ∈ ['0'], isDigit c = true := by simpa using hdigit
    exact isDecimal_positional hdigits 0
  have hbody : IsDecimal (if size = 0 then "0.0".toList
      else Style.decimal .display (shortest (Binary.ofBits size))) := by
    split
    · exact hzero
    · exact isDecimal_decimal _ _
  split
  · exact hbody.isSome rfl
  · exact hbody.isSome hbody.takeSign_eq

end RestContract.Number
