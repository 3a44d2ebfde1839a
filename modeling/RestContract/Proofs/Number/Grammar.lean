import RestContract.Proofs.InputRoundTrip
import RestContract.Proofs.Number.Order
import RestContract.Proofs.Number.Written

/-!
# The grammar of numerals

A whole numeral is a sign, which may be left out, and one digit or more. A decimal numeral is a
sign, which may be left out, digits, a point before, behind or between them, which may be left out
too, and possibly an exponent. The readers accept the texts of this grammar and nothing else, and a
whole numeral has the value that its digits have by their places. So a path or query field for
numbers takes exactly these texts; only the digits of a whole number are counted.
-/

namespace RestContract

namespace Number

/-! ## What is written -/

/-- A minus, a plus, or no sign at all. -/
inductive SignText : Bool → List Char → Prop where
  /-- No sign. -/
  | none : SignText false []
  /-- A plus. -/
  | plus : SignText false ['+']
  /-- A minus. -/
  | minus : SignText true ['-']

/-- One digit or more. -/
structure DigitText (cs : List Char) : Prop where
  /-- There is a digit. -/
  ne_nil : cs ≠ []
  /-- There is nothing else. -/
  all : ∀ c ∈ cs, isDigit c = true

/-- What digits are worth by their places: each counts as often as the power of ten for the number
of digits behind it says. -/
def worth : List Char → Nat
  | [] => 0
  | c :: cs => (c.toNat - 0x30) * 10 ^ cs.length + worth cs

/-- A sign and digits are the text of a whole number. -/
inductive IntegerText (digits : List Char) : Int → List Char → Prop where
  /-- A whole number that is not negative. -/
  | pos {sign : List Char} : SignText false sign → DigitText digits →
      IntegerText digits (worth digits) (sign ++ digits)
  /-- A whole number behind a minus. -/
  | neg {sign : List Char} : SignText true sign → DigitText digits →
      IntegerText digits (-worth digits) (sign ++ digits)

/-- Digits with a point, or without one. -/
inductive PointText : List Char → Prop where
  /-- Without a point. -/
  | whole {whole : List Char} : DigitText whole → PointText whole
  /-- With a point behind digits, and possibly more digits behind it. -/
  | point {whole places : List Char} : DigitText whole → (∀ c ∈ places, isDigit c = true) →
      PointText (whole ++ '.' :: places)
  /-- With a point before the digits. -/
  | places {places : List Char} : DigitText places → PointText ('.' :: places)

/-- An exponent, or nothing. -/
inductive ExponentText : List Char → Prop where
  /-- No exponent. -/
  | none : ExponentText []
  /-- A mark, a sign that may be left out, and digits. -/
  | mark {c : Char} {negative : Bool} {sign digits : List Char} : c = 'e' ∨ c = 'E' →
      SignText negative sign → DigitText digits → ExponentText (c :: (sign ++ digits))

/-- The text of a decimal numeral. -/
inductive DecimalText : List Char → Prop where
  /-- A sign that may be left out, digits around a point, and possibly an exponent. -/
  | parts {negative : Bool} {sign figures exponent : List Char} : SignText negative sign →
      PointText figures → ExponentText exponent → DecimalText (sign ++ (figures ++ exponent))

/-! ## What is read -/

/-- A text is a sign and what is left when the sign is taken. -/
theorem signText_takeSign (cs : List Char) :
    ∃ sign, cs = sign ++ (takeSign cs).2 ∧ SignText (takeSign cs).1 sign := by
  unfold takeSign
  split
  · exact ⟨['-'], rfl, .minus⟩
  · exact ⟨['+'], rfl, .plus⟩
  · exact ⟨[], rfl, .none⟩

/-- What stands behind a sign is left when the sign is taken, unless it begins with another one. -/
theorem SignText.takeSign_append {negative : Bool} {sign rest : List Char}
    (h : SignText negative sign) (hrest : ∀ c, rest.head? = some c → c ≠ '-' ∧ c ≠ '+') :
    takeSign (sign ++ rest) = (negative, rest) := by
  cases h with
  | plus | minus => rfl
  | none =>
    rw [List.nil_append]
    unfold takeSign
    split
    next cs => exact absurd rfl (hrest '-' rfl).1
    next cs => exact absurd rfl (hrest '+' rfl).2
    next => rfl

/-- A digit is no sign, no point and no mark of an exponent. -/
theorem ne_of_isDigit {c : Char} (h : isDigit c = true) : c ≠ '-' ∧ c ≠ '+' ∧ c ≠ '.' := by
  refine ⟨?_, ?_, ?_⟩ <;> rintro rfl <;> cases h

/-- Digits begin with no sign. -/
theorem DigitText.head {cs : List Char} (h : DigitText cs) :
    ∀ c, cs.head? = some c → isDigit c = true :=
  fun _ hc => h.all _ (List.mem_of_head? hc)

/-- A whole numeral is read from a sign and digits, and from nothing else. -/
theorem ofText?_eq_some_iff {cs : List Char} {w : WholeNumeral} :
    WholeNumeral.ofText? cs = some w ↔
      ∃ sign, cs = sign ++ w.digits ∧ SignText w.negative sign ∧ DigitText w.digits := by
  unfold WholeNumeral.ofText?
  constructor
  · intro h
    obtain ⟨sign, hcs, hsign⟩ := signText_takeSign cs
    dsimp only at h
    split at h
    next hdigits =>
      obtain rfl := Option.some.inj h
      simp only [Bool.and_eq_true, Bool.not_eq_true', List.isEmpty_eq_false_iff] at hdigits
      exact ⟨sign, hcs, hsign, hdigits.1, List.all_eq_true.mp hdigits.2⟩
    next => cases h
  · rintro ⟨sign, rfl, hsign, hdigits⟩
    have hhead : ∀ c, w.digits.head? = some c → c ≠ '-' ∧ c ≠ '+' := fun c hc =>
      ⟨(ne_of_isDigit (hdigits.head c hc)).1, (ne_of_isDigit (hdigits.head c hc)).2.1⟩
    have hall : w.digits.all isDigit = true := List.all_eq_true.mpr hdigits.all
    simp [hsign.takeSign_append hhead, hdigits.ne_nil, hall]

/-- Digits read one after the other have the value that they are worth by their places. -/
theorem digitsValue_eq_worth (acc : Nat) (cs : List Char) :
    digitsValue acc cs = acc * 10 ^ cs.length + worth cs := by
  induction cs generalizing acc with
  | nil => simp [digitsValue, worth]
  | cons c cs ih =>
    have hstep : digitsValue acc (c :: cs) = digitsValue (10 * acc + (c.toNat - 0x30)) cs := rfl
    rw [hstep, ih, worth, List.length_cons, pow_succ]
    ring

/-- The value of a whole numeral is that of its text. -/
theorem exists_ofText?_iff {cs digits : List Char} {n : Int} :
    (∃ w, WholeNumeral.ofText? cs = some w ∧ w.digits = digits ∧ w.value = n) ↔
      IntegerText digits n cs := by
  have hworth : ∀ ds, digitsValue 0 ds = worth ds := fun ds => by
    rw [digitsValue_eq_worth, Nat.zero_mul, Nat.zero_add]
  constructor
  · rintro ⟨⟨negative, digits⟩, hw, rfl, rfl⟩
    obtain ⟨sign, rfl, hsign, hdigits⟩ := ofText?_eq_some_iff.mp hw
    rw [WholeNumeral.value, hworth]
    cases negative with
    | false => exact .pos hsign hdigits
    | true => exact .neg hsign hdigits
  · intro h
    cases h with
    | pos hsign hdigits =>
      refine ⟨⟨false, digits⟩, ofText?_eq_some_iff.mpr ⟨_, rfl, hsign, hdigits⟩, rfl, ?_⟩
      rw [WholeNumeral.value, hworth]
      rfl
    | neg hsign hdigits =>
      refine ⟨⟨true, digits⟩, ofText?_eq_some_iff.mpr ⟨_, rfl, hsign, hdigits⟩, rfl, ?_⟩
      rw [WholeNumeral.value, hworth]
      rfl

private theorem IntegerText.natAbs_lt {digits cs : List Char} {n : Int}
    (h : IntegerText digits n cs) : n.natAbs < 10 ^ digits.length := by
  have hbound : DigitText digits → worth digits < 10 ^ digits.length := fun hdigits => by
    have hvalue := (digitsValue_bounds hdigits.all 0).2
    rwa [digitsValue_eq_worth, Nat.zero_mul, Nat.zero_add, Nat.zero_add, Nat.one_mul] at hvalue
  cases h with
  | pos _ hdigits => simpa using hbound hdigits
  | neg _ hdigits => simpa using hbound hdigits

/-- An exponent is read where there is one or nothing, and nowhere else. -/
theorem isSome_exponent?_iff {cs : List Char} :
    (exponent? cs).isSome = true ↔ ExponentText cs := by
  cases cs with
  | nil => exact iff_of_true rfl .none
  | cons c cs =>
    by_cases hmark : c = 'e' ∨ c = 'E'
    · have hread : (exponent? (c :: cs)).isSome = (WholeNumeral.ofText? cs).isSome := by
        simp [exponent?, hmark]
      rw [hread, Option.isSome_iff_exists]
      constructor
      · rintro ⟨w, hw⟩
        obtain ⟨sign, rfl, hsign, hdigits⟩ := ofText?_eq_some_iff.mp hw
        exact .mark hmark hsign hdigits
      · rintro (_ | ⟨-, hsign, hdigits⟩)
        exact ⟨⟨_, _⟩, ofText?_eq_some_iff.mpr ⟨_, rfl, hsign, hdigits⟩⟩
    · have hread : exponent? (c :: cs) = none := by simp [exponent?, hmark]
      rw [hread]
      refine iff_of_false Bool.false_ne_true ?_
      rintro (_ | ⟨hc, -, -⟩)
      exact hmark hc

private theorem ExponentText.head {cs : List Char} (h : ExponentText cs) :
    ∀ c, cs.head? = some c → isDigit c = false ∧ c ≠ '.' := by
  cases h with
  | none => simp
  | mark hc _ _ =>
    rintro c ⟨⟩
    rcases hc with rfl | rfl <;> exact ⟨by decide, by decide⟩

/-- Digits around a point begin with no sign. -/
theorem PointText.head {figures : List Char} (h : PointText figures) (rest : List Char) :
    ∀ c, (figures ++ rest).head? = some c → c ≠ '-' ∧ c ≠ '+' := by
  intro c hc
  have hdigit : ∀ {ds}, DigitText ds → ∀ back, (ds ++ back).head? = some c →
      c ≠ '-' ∧ c ≠ '+' := by
    intro ds hds back hback
    rw [List.head?_append_of_ne_nil _ hds.ne_nil] at hback
    exact ⟨(ne_of_isDigit (hds.head c hback)).1, (ne_of_isDigit (hds.head c hback)).2.1⟩
  cases h with
  | whole hwhole => exact hdigit hwhole _ hc
  | point hwhole _ =>
    rw [List.append_assoc] at hc
    exact hdigit hwhole _ hc
  | places _ =>
    obtain rfl := Option.some.inj hc
    exact ⟨by decide, by decide⟩

private theorem exists_digits (cs : List Char) : ∃ digits rest, cs = digits ++ rest ∧
    (∀ c ∈ digits, isDigit c = true) ∧ cs.takeWhile isDigit = digits ∧
      cs.dropWhile isDigit = rest :=
  ⟨_, _, List.takeWhile_append_dropWhile.symm, fun _ hc => List.mem_takeWhile_imp hc, rfl, rfl⟩

/-- A decimal numeral is read from a text of the grammar, and from nothing else. -/
theorem isSome_ofText?_iff {cs : List Char} :
    (DecimalNumeral.ofText? cs).isSome = true ↔ DecimalText cs := by
  unfold DecimalNumeral.ofText?
  constructor
  · intro h
    obtain ⟨sign, hcs, hsign⟩ := signText_takeSign cs
    rw [hcs]
    dsimp only at h
    generalize (takeSign cs).2 = figures at h hsign
    obtain ⟨whole, rest, rfl, hwhole, htake, hdrop⟩ := exists_digits figures
    rw [htake, hdrop] at h
    split at h
    next rest =>
      obtain ⟨places, rest, rfl, hplaces, htake, hdrop⟩ := exists_digits rest
      rw [htake, hdrop] at h
      split at h
      · cases h
      next hsome =>
        rw [Option.isSome_map, isSome_exponent?_iff] at h
        have hpoint : PointText (whole ++ '.' :: places) := by
          by_cases hnone : whole = []
          · subst hnone
            exact .places ⟨by simpa using hsome, hplaces⟩
          · exact .point ⟨hnone, hwhole⟩ hplaces
        have htext := DecimalText.parts hsign hpoint h
        rwa [List.append_assoc, List.cons_append] at htext
    next rest _ =>
      split at h
      · cases h
      next hsome =>
        rw [Option.isSome_map, isSome_exponent?_iff] at h
        exact .parts hsign (.whole ⟨by simpa using hsome, hwhole⟩) h
  · rintro @⟨negative, sign, figures, exponent, hsign, hfigures, hexponent⟩
    rw [hsign.takeSign_append (hfigures.head _)]
    have hread := isSome_exponent?_iff.mpr hexponent
    have hpoint : ∀ (cs : List Char) c, ('.' :: cs).head? = some c → isDigit c = false := by
      rintro cs c ⟨⟩
      decide
    cases hfigures with
    | whole hwhole =>
      obtain ⟨htake, hdrop⟩ := span_isDigit hwhole.all fun c hc => (hexponent.head c hc).1
      simp only [htake, hdrop]
      split
      next => exact absurd rfl (hexponent.head '.' rfl).2
      next => simp [hwhole.ne_nil, hread]
    | @point whole places hwhole hplaces =>
      obtain ⟨-, hrest⟩ := span_isDigit hplaces fun c hc => (hexponent.head c hc).1
      obtain ⟨htake, hdrop⟩ := span_isDigit hwhole.all (hpoint (places ++ exponent))
      simp only [List.append_assoc, List.cons_append, htake, hdrop, hrest]
      simp [hwhole.ne_nil, hread]
    | places hplaces =>
      obtain ⟨htake, hdrop⟩ := span_isDigit hplaces.all fun c hc => (hexponent.head c hc).1
      have hnone : isDigit '.' = false := by decide
      simp [hnone, htake, hdrop, hplaces.ne_nil, hread]

end Number

/-! ## Fields for numbers -/

namespace Parameter

open Number (IntegerText DecimalText)

/-- A whole number is read from a text for it with few enough digits, and from nothing else. -/
theorem readInteger_eq_ok_iff {text : String} {v : Value} :
    readInteger text = .ok v ↔ ∃ digits n, IntegerText digits n text.toList ∧
      digits.length ≤ Number.maxDigits ∧ v = .int n := by
  unfold readInteger
  constructor
  · intro h
    split at h
    · cases h
    next w hw =>
      split at h
      · cases h
      next hlength =>
        exact ⟨w.digits, w.value, Number.exists_ofText?_iff.mp ⟨w, hw, rfl, rfl⟩,
          Nat.le_of_not_lt hlength, (Except.ok.inj h).symm⟩
  · rintro ⟨digits, n, htext, hlength, rfl⟩
    obtain ⟨w, hw, rfl, rfl⟩ := Number.exists_ofText?_iff.mpr htext
    rw [hw]
    exact if_neg (Nat.not_lt.mpr hlength)

/-- A floating-point number is read from a decimal numeral, and from nothing else. -/
theorem exists_readFloat_eq_ok_iff {text : String} :
    (∃ v, readFloat text = .ok v) ↔ DecimalText text.toList := by
  rw [← Number.isSome_ofText?_iff]
  unfold readFloat
  cases Number.DecimalNumeral.ofText? text.toList <;> simp

/-- A field for whole numbers takes exactly the texts of a sign, which may be left out, and one to
4300 digits, and reads the number that the digits are worth behind their sign. So every whole number
of at most 4300 digits is read from the text that it is sent as, and a number that was read from any
text is sent as a text that is read as that number again. A field for floating-point numbers takes
exactly the texts of the grammar of decimal numerals. -/
theorem decode_numeral (p : Parameter) :
    (p.type = .integer →
      (∀ text v, p.decode text = .ok v ↔ ∃ digits n, IntegerText digits n text.toList ∧
        digits.length ≤ 4300 ∧ v = .int n) ∧
      (∀ n : Int, (Nat.toDigits 10 n.natAbs).length ≤ 4300 →
        p.encode (.int n) = .ok (toString n) ∧ p.decode (toString n) = .ok (.int n)) ∧
      ∀ text v, p.decode text = .ok v →
        ∃ text', p.encode v = .ok text' ∧ p.decode text' = .ok v) ∧
    (p.type = .float → ∀ text, (∃ v, p.decode text = .ok v) ↔ DecimalText text.toList) := by
  refine ⟨fun hp => ?_, fun hp text => ?_⟩
  · have hread : ∀ text, p.decode text = readInteger text := fun text => by simp only [decode, hp]
    have hback : ∀ n : Int, n.natAbs < 10 ^ Number.maxDigits →
        p.encode (.int n) = .ok (toString n) ∧ p.decode (toString n) = .ok (.int n) := by
      intro n hn
      refine ⟨by simp only [encode, hp, Value.plainText_int hn], ?_⟩
      rw [hread, readInteger_toString hn]
    refine ⟨fun text v => ?_, fun n hn => ?_, fun text v hv => ?_⟩
    · rw [hread]
      exact readInteger_eq_ok_iff
    · exact hback n ((Nat.length_toDigits_le_iff (by decide) (by decide)).mp hn)
    · rw [hread] at hv
      obtain ⟨digits, n, htext, hlength, rfl⟩ := readInteger_eq_ok_iff.mp hv
      have hsmall : n.natAbs < 10 ^ Number.maxDigits :=
        htext.natAbs_lt.trans_le (Nat.pow_le_pow_right (by decide) hlength)
      exact ⟨toString n, hback n hsmall⟩
  · rw [← exists_readFloat_eq_ok_iff]
    simp only [decode, hp]

end Parameter

/-- A query field for a whole number. -/
def countParameter : Parameter :=
  ⟨.text "count", .integer, .query, false, .text "count", none, .shape .integer⟩

/-- A query field for a floating-point number. -/
def ratioParameter : Parameter :=
  ⟨.text "ratio", .float, .query, false, .text "ratio", none, .shape .float⟩

/-- A plus and leading zeros are read and sent as neither, the digits of a number behind a minus are
read again, and the digits of a decimal numeral may all stand behind its point. -/
theorem decode_numeral_signed :
    countParameter.type = .integer ∧ ratioParameter.type = .float ∧
      countParameter.decode "+007" = .ok (.int 7) ∧
      (∃ text, countParameter.encode (.int 7) = .ok text ∧
        countParameter.decode text = .ok (.int 7)) ∧
      (Nat.toDigits 10 (-120 : Int).natAbs).length ≤ 4300 ∧
      countParameter.encode (.int (-120)) = .ok "-120" ∧
      countParameter.decode "-120" = .ok (.int (-120)) ∧
      ∃ v, ratioParameter.decode "-.5E+03" = .ok v := by
  obtain ⟨hread, hsent, hagain⟩ := (Parameter.decode_numeral countParameter).1 rfl
  have htext : Number.IntegerText ['0', '0', '7'] 7 "+007".toList :=
    .pos .plus ⟨by decide, List.all_eq_true.mp rfl⟩
  have hplus : countParameter.decode "+007" = .ok (.int 7) :=
    (hread "+007" (.int 7)).mpr ⟨_, 7, htext, by simp, rfl⟩
  have hdigits : (Nat.toDigits 10 (-120 : Int).natAbs).length = 3 := by decide
  have hlength : (Nat.toDigits 10 (-120 : Int).natAbs).length ≤ 4300 := by
    rw [hdigits]
    omega
  obtain ⟨hencode, hdecode⟩ := hsent (-120) hlength
  have hfigures : Number.PointText ['.', '5'] := .places ⟨by decide, List.all_eq_true.mp rfl⟩
  have hpower : Number.DigitText ['0', '3'] := ⟨by decide, List.all_eq_true.mp rfl⟩
  have hexponent : Number.ExponentText ['E', '+', '0', '3'] := .mark (.inr rfl) .plus hpower
  have hratio := ((Parameter.decode_numeral ratioParameter).2 rfl "-.5E+03").mpr
    (.parts .minus hfigures hexponent)
  exact ⟨rfl, rfl, hplus, hagain _ _ hplus, hlength, hencode, hdecode, hratio⟩

end RestContract
