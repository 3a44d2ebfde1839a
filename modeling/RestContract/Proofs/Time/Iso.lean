import RestContract.Time.Iso
import RestContract.Proofs.Number.Numeral

/-!
# Reading back dates and moments

A date is written with four digits, two and two, and universal time with two more parts
of two digits each behind a `T` and colons. All parts are found where they were written,
since digits are neither marks nor the beginning of an offset. So every date is read back
from its text, and every moment of universal time to the second from its text on the wire.
-/

namespace RestContract.Iso

open Number (isDigit digitsValue)

private theorem beginsOffset_of_isDigit {c : Char} (h : isDigit c = true) :
    beginsOffset c = false := by
  unfold beginsOffset
  rw [Bool.or_eq_false_iff, Bool.or_eq_false_iff]
  refine ⟨⟨?_, ?_⟩, ?_⟩ <;> exact decide_eq_false fun he => absurd (he ▸ h) (by decide)

/-- A digit is no week mark. -/
theorem ne_weekMark_of_isDigit {c : Char} (h : isDigit c = true) : c ≠ 'W' := by
  rintro rfl
  exact absurd h (by decide)

private theorem utf8Size_of_isDigit {c : Char} (h : isDigit c = true) : c.utf8Size = 1 := by
  have hle : c.val ≤ 57 := by
    rw [Number.isDigit_eq, Char.isDigit, Bool.and_eq_true, decide_eq_true_eq,
      decide_eq_true_eq] at h
    exact h.2
  rw [Char.utf8Size, if_pos]
  exact Nat.le_trans hle (by decide)

/-- Digits with a value. -/
structure Digits (cs : List Char) (n : Nat) : Prop where
  /-- All of them are digits. -/
  digit : ∀ c ∈ cs, isDigit c = true
  /-- Together they have the value. -/
  value : digitsValue 0 cs = n

/-- Digits are read as their value. -/
theorem Digits.digits? {cs : List Char} {n : Nat} (h : Digits cs n) (rest : List Char) :
    digits? cs.length (cs ++ rest) = some (n, rest) := by
  have hall : cs.all isDigit = true := List.all_eq_true.mpr h.digit
  rw [Iso.digits?, List.take_left, List.drop_left, hall, h.value]
  simp

/-- A number below a hundred is written with two digits. -/
theorem zeroPadded_two {n : Nat} (h : n < 100) :
    ∃ a b, (Text.zeroPadded 2 n).toList = [a, b] ∧ Digits [a, b] n := by
  have hwidth : 0 < 2 := by decide
  obtain ⟨hlength, hdigits, hvalue⟩ := Number.zeroPadded_toList hwidth h
  match hcs : (Text.zeroPadded 2 n).toList, hlength with
  | [a, b], _ => exact ⟨a, b, rfl, hcs ▸ hdigits, hcs ▸ hvalue⟩

private theorem zeroPadded_four {n : Nat} (h : n < 10000) :
    ∃ a b c d, (Text.zeroPadded 4 n).toList = [a, b, c, d] ∧ Digits [a, b, c, d] n := by
  have hwidth : 0 < 4 := by decide
  obtain ⟨hlength, hdigits, hvalue⟩ := Number.zeroPadded_toList hwidth h
  match hcs : (Text.zeroPadded 4 n).toList, hlength with
  | [a, b, c, d], _ => exact ⟨a, b, c, d, rfl, hcs ▸ hdigits, hcs ▸ hvalue⟩

/-- The bounds of a date. -/
theorem date_bounds (d : Date) : d.year < 10000 ∧ d.month < 100 ∧ d.day < 100 := by
  have hv := d.valid
  simp only [isDate, Bool.and_eq_true, decide_eq_true_eq] at hv
  have hdays : daysInMonth d.year d.month ≤ 31 := by
    unfold daysInMonth
    split
    · split <;> omega
    · split <;> omega
  omega

/-- The text of a date: four digits, two and two, joined by hyphens. -/
def DateText (cs : List Char) (d : Date) : Prop :=
  ∃ y₁ y₂ y₃ y₄ m₁ m₂ d₁ d₂, cs = [y₁, y₂, y₃, y₄, '-', m₁, m₂, '-', d₁, d₂] ∧
    Digits [y₁, y₂, y₃, y₄] d.year ∧ Digits [m₁, m₂] d.month ∧ Digits [d₁, d₂] d.day

/-- A date is written with its digits. -/
theorem dateText_text (d : Date) : DateText d.text.toList d := by
  obtain ⟨hy, hm, hd⟩ := date_bounds d
  obtain ⟨y₁, y₂, y₃, y₄, hyear, hyd⟩ := zeroPadded_four hy
  obtain ⟨m₁, m₂, hmonth, hmd⟩ := zeroPadded_two hm
  obtain ⟨d₁, d₂, hday, hdd⟩ := zeroPadded_two hd
  refine ⟨y₁, y₂, y₃, y₄, m₁, m₂, d₁, d₂, ?_, hyd, hmd, hdd⟩
  simp only [Date.text, String.toList_append, hyear, hmonth, hday]
  rfl

/-- The parts of a date are found in its text. -/
theorem DateText.dateOf? {cs : List Char} {d : Date} (h : DateText cs d) :
    dateOf? cs = some (.ok d) := by
  obtain ⟨y₁, y₂, y₃, y₄, m₁, m₂, d₁, d₂, rfl, hy, hm, hd⟩ := h
  have hyear : digits? 4 [y₁, y₂, y₃, y₄, '-', m₁, m₂, '-', d₁, d₂] =
      some (d.year, ['-', m₁, m₂, '-', d₁, d₂]) := hy.digits? _
  have hmonth : digits? 2 [m₁, m₂, '-', d₁, d₂] = some (d.month, ['-', d₁, d₂]) := hm.digits? _
  have hday : digits? 2 [d₁, d₂] = some (d.day, []) := hd.digits? []
  have hweek : m₁ ≠ 'W' := ne_weekMark_of_isDigit (hm.digit m₁ (by simp))
  have hof : Date.of d.year d.month d.day = .ok d := dif_pos d.valid
  simp [Iso.dateOf?, hyear, hmonth, hday, hweek, hof]

/-- Every date is read back from its text. -/
theorem readDate_text (d : Date) : readDate d.text.toList = .ok d := by
  have htext := dateText_text d
  have hparts := htext.dateOf?
  have hbytes : byteCount d.text.toList = 10 := by
    obtain ⟨y₁, y₂, y₃, y₄, m₁, m₂, d₁, d₂, he, hy, hm, hd⟩ := htext
    rw [he]
    have hsize : ∀ c ∈ [y₁, y₂, y₃, y₄] ++ [m₁, m₂] ++ [d₁, d₂], c.utf8Size = 1 := by
      intro c hc
      apply utf8Size_of_isDigit
      rcases List.mem_append.mp hc with hc | hc
      · rcases List.mem_append.mp hc with hc | hc
        · exact hy.digit c hc
        · exact hm.digit c hc
      · exact hd.digit c hc
    have hhyphen : '-'.utf8Size = 1 := by decide
    simp only [List.cons_append, List.nil_append, List.forall_mem_cons] at hsize
    simp [byteCount, hsize, hhyphen]
  simp [readDate, hbytes, hparts, Except.mapError]

/-- The text of a moment of universal time to the second is its date and its clock time. -/
theorem wireText?_eq {t : Moment} (ho : t.offset = some 0) (hy : 1000 ≤ t.date.year) :
    t.wireText? = some (t.date.text ++ "T" ++ Text.zeroPadded 2 t.hour ++ ":" ++
      Text.zeroPadded 2 t.minute ++ ":" ++ Text.zeroPadded 2 t.second ++ "Z") := by
  have hyear : toString t.date.year = Text.zeroPadded 4 t.date.year :=
    (Number.zeroPadded_of_le (by decide) hy).symm
  rw [Moment.wireText?, ho]
  simp only [Option.map_some, hyear, Date.text]

private theorem clock?_text {h₁ h₂ n₁ n₂ s₁ s₂ : Char} {hour minute second : Nat}
    (hh : Digits [h₁, h₂] hour) (hn : Digits [n₁, n₂] minute) (hs : Digits [s₁, s₂] second) :
    clock? true [h₁, h₂, ':', n₁, n₂, ':', s₁, s₂] = some ⟨hour, minute, second, 0, true⟩ := by
  have hhour :
    digits? 2 [h₁, h₂, ':', n₁, n₂, ':', s₁, s₂] = some (hour, [':', n₁, n₂, ':', s₁, s₂]) :=
    hh.digits? _
  have hminute : digits? 2 [n₁, n₂, ':', s₁, s₂] = some (minute, [':', s₁, s₂]) := hn.digits? _
  have hsecond : digits? 2 [s₁, s₂] = some (second, []) := hs.digits? []
  simp [clock?, hhour, hminute, hsecond, followBefore, follow]

/-- A clock time of universal time is read with that offset. -/
theorem clockWithOffset?_text {h₁ h₂ n₁ n₂ s₁ s₂ : Char} {hour minute second : Nat}
    (hh : Digits [h₁, h₂] hour) (hn : Digits [n₁, n₂] minute) (hs : Digits [s₁, s₂] second) :
    clockWithOffset? [h₁, h₂, ':', n₁, n₂, ':', s₁, s₂, 'Z'] =
      some (⟨hour, minute, second, 0, true⟩, some 0) := by
  have hclock : ∀ c ∈ [h₁, h₂, ':', n₁, n₂, ':', s₁, s₂], (!beginsOffset c) = true := by
    have hcolon : beginsOffset ':' = false := by decide
    simp [hcolon, beginsOffset_of_isDigit, hh.digit, hn.digit, hs.digit]
  have hz : (!beginsOffset 'Z') = false := by decide
  have htake : ([h₁, h₂, ':', n₁, n₂, ':', s₁, s₂] ++ ['Z']).takeWhile (fun c => !beginsOffset c) =
      [h₁, h₂, ':', n₁, n₂, ':', s₁, s₂] := by
    rw [List.takeWhile_append_of_pos hclock, List.takeWhile_cons_of_neg (by simp [hz]),
      List.append_nil]
  have hdrop : ([h₁, h₂, ':', n₁, n₂, ':', s₁, s₂] ++ ['Z']).dropWhile (fun c => !beginsOffset c) =
      ['Z'] := by
    rw [List.dropWhile_append_of_pos hclock, List.dropWhile_cons_of_neg (by simp [hz])]
  simp only [List.cons_append, List.nil_append] at htake hdrop
  simp [clockWithOffset?, htake, hdrop, clock?_text hh hn hs, isLeft]

private theorem micros_eq_clock {t : Moment} (hm : t.micro = 0) :
    ClockParts.micros ⟨t.hour, t.minute, t.second, 0, true⟩ = t.clock := by
  simp only [ClockParts.micros, Moment.hour, Moment.minute, Moment.second, Moment.micro] at *
  omega

/-- The bounds of the parts of a clock time. -/
theorem clock_bounds (t : Moment) : t.hour < 24 ∧ t.minute < 60 ∧ t.second < 60 := by
  have hclock := t.clock_lt
  simp only [Moment.hour, Moment.minute, Moment.second, dayLength] at *
  omega

/-- The parts of a moment of universal time to the second make up the moment. -/
theorem momentOf_clock {t : Moment} (ho : t.offset = some 0) (hm : t.micro = 0) :
    momentOf (.ok t.date) ⟨t.hour, t.minute, t.second, 0, true⟩ (some 0) = .ok t := by
  obtain ⟨hhour, hminute, hsecond⟩ := clock_bounds t
  have hmicros := micros_eq_clock hm
  unfold momentOf
  split
  next h => exact absurd h (by decide)
  next h =>
    simp only [Nat.not_lt.mpr (Nat.le_of_lt_succ hhour), Nat.not_lt.mpr (Nat.le_of_lt_succ hminute),
      Nat.not_lt.mpr (Nat.le_of_lt_succ hsecond), if_false, hmicros, t.clock_lt, dif_pos]
    cases t
    cases ho
    rfl

/-- Every moment of universal time to the second, from the year 1000 on, is read back from its text
on the wire. -/
theorem readMoment_wireText {t : Moment} (ho : t.offset = some 0) (hm : t.micro = 0)
    (hy : 1000 ≤ t.date.year) : ∃ s, t.wireText? = some s ∧ readMoment s.toList = .ok t := by
  refine ⟨_, wireText?_eq ho hy, ?_⟩
  obtain ⟨hhour, hminute, hsecond⟩ := clock_bounds t
  obtain ⟨h₁, h₂, hhe, hh⟩ := zeroPadded_two (show t.hour < 100 by omega)
  obtain ⟨n₁, n₂, hne, hn⟩ := zeroPadded_two (show t.minute < 100 by omega)
  obtain ⟨s₁, s₂, hse, hs⟩ := zeroPadded_two (show t.second < 100 by omega)
  have htext := dateText_text t.date
  have hdate := htext.dateOf?
  obtain ⟨y₁, y₂, y₃, y₄, m₁, m₂, d₁, d₂, he, -, hmd, -⟩ := htext
  have hweek : m₁ ≠ 'W' := ne_weekMark_of_isDigit (hmd.digit m₁ (by simp))
  have hwhole :
    (t.date.text ++ "T" ++ Text.zeroPadded 2 t.hour ++ ":" ++ Text.zeroPadded 2 t.minute ++
      ":" ++ Text.zeroPadded 2 t.second ++ "Z").toList =
      [y₁, y₂, y₃, y₄, '-', m₁, m₂, '-', d₁, d₂, 'T', h₁, h₂, ':', n₁, n₂, ':', s₁, s₂, 'Z'] := by
    simp only [String.toList_append, he, hhe, hne, hse]
    rfl
  rw [he] at hdate
  have hend :
    dateEnd [y₁, y₂, y₃, y₄, '-', m₁, m₂, '-', d₁, d₂, 'T', h₁, h₂, ':', n₁, n₂, ':', s₁, s₂, 'Z'] =
      10 := by
    simp [dateEnd, hweek]
  rw [hwhole, readMoment, hend]
  simp [hdate, clockWithOffset?_text hh hn hs, momentOf_clock ho hm]

/-! ## Texts that are neither -/

private theorem digits?_colon (n : Nat) (cs : List Char) : digits? (n + 1) (':' :: cs) = none := by
  have hcolon : Number.isDigit ':' = false := by decide
  simp [digits?, hcolon]

/-- Nothing that begins with a colon is a date, nor is any beginning of it. -/
theorem dateOf?_colon (n : Nat) (cs : List Char) : dateOf? ((':' :: cs).take n) = none := by
  cases n with
  | zero => rfl
  | succ n => rw [List.take_succ_cons, dateOf?, digits?_colon]

/-- Nothing that begins with a colon is a moment. -/
theorem readMoment_colon (cs : List Char) : readMoment (':' :: cs) = .error .form := by
  unfold readMoment
  split
  · rfl
  · simp only [dateOf?_colon]

/-- Nothing that begins with a colon is read as a date. -/
theorem readDate_colon (cs : List Char) : readDate (':' :: cs) = .error .form := by
  have hnone := dateOf?_colon (cs.length + 1) cs
  rw [List.take_of_length_le (by simp)] at hnone
  unfold readDate
  rw [hnone]
  split <;> rfl

end RestContract.Iso

/-! ## Moments of any clock -/

namespace RestContract.Moment

/-- The moment of universal time that is written on the wire; a clock of no known offset is taken to
show it. -/
def universal? (t : Moment) : Option Moment :=
  match t.offset with
  | none => some t
  | some 0 => some t
  | some _ => t.toUniversal?

/-- The moment of universal time at the beginning of a second. -/
def toSecond (t : Moment) : Moment where
  date := t.date
  clock := t.clock - t.micro
  offset := some 0
  clock_lt := Nat.lt_of_le_of_lt (Nat.sub_le _ _) t.clock_lt
  offset_lt := universal_lt

/-- The parts of a moment to the second are those of the moment. -/
theorem toSecond_parts (t : Moment) : t.toSecond.hour = t.hour ∧ t.toSecond.minute = t.minute ∧
    t.toSecond.second = t.second ∧ t.toSecond.micro = 0 := by
  simp only [toSecond, hour, minute, second, micro]
  omega

/-- On the wire stands the moment of universal time to the second. -/
theorem wireText?_universal {t u : Moment} (h : t.universal? = some u) :
    t.wireText? = u.toSecond.wireText? := by
  obtain ⟨hhour, hminute, hsecond, -⟩ := u.toSecond_parts
  have htext : t.wireText? = t.universal?.map fun u =>
      toString u.date.year ++ "-" ++ Text.zeroPadded 2 u.date.month ++ "-" ++
        Text.zeroPadded 2 u.date.day ++ "T" ++ Text.zeroPadded 2 u.hour ++ ":" ++
        Text.zeroPadded 2 u.minute ++ ":" ++ Text.zeroPadded 2 u.second ++ "Z" := rfl
  have hsame : u.toSecond.wireText? = some
      (toString u.date.year ++ "-" ++ Text.zeroPadded 2 u.date.month ++ "-" ++
        Text.zeroPadded 2 u.date.day ++ "T" ++ Text.zeroPadded 2 u.toSecond.hour ++ ":" ++
        Text.zeroPadded 2 u.toSecond.minute ++ ":" ++ Text.zeroPadded 2 u.toSecond.second ++
        "Z") := rfl
  rw [htext, h, Option.map_some, hsame, hhour, hminute, hsecond]

/-- Only a moment with a universal time is written on the wire. -/
theorem exists_universal {t : Moment} {s : String} (h : t.wireText? = some s) :
    ∃ u, t.universal? = some u := by
  obtain ⟨u, hu, -⟩ := Option.map_eq_some_iff.mp h
  exact ⟨u, hu⟩

/-- Every moment, from the year 1000 of universal time on, is read back from its text on the wire as
that universal time to the second. -/
theorem readMoment_of_universal {t u : Moment} (h : t.universal? = some u)
    (hy : 1000 ≤ u.date.year) :
    ∃ s, t.wireText? = some s ∧ Iso.readMoment s.toList = .ok u.toSecond := by
  obtain ⟨s, hs, hread⟩ := Iso.readMoment_wireText rfl u.toSecond_parts.2.2.2 hy
  exact ⟨s, (wireText?_universal h).trans hs, hread⟩

end RestContract.Moment
