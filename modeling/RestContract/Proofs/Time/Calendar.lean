import Mathlib
import RestContract.Time.Calendar

/-!
# Counting days

The days before the years grow by the days of each year, and those before the months of a
year by the days of each month. So every day of the years 1 to 9999 lies between the
beginnings of one year and the next, and there between those of one month and the next:
it is the day of one date, which is found by its number. Dates come in the order of their
numbers, year before month and month before day.
-/

namespace RestContract

/-! ## Between the values of a growing function -/

/-- A number lies between two neighbouring values of a growing function at one place only. -/
theorem eq_of_between {f : Nat → Nat} (hf : Monotone f) {a b n : Nat} (ha : f a < n)
    (ha' : n ≤ f (a + 1)) (hb : f b < n) (hb' : n ≤ f (b + 1)) : a = b := by
  by_contra hne
  rcases Nat.lt_or_gt_of_ne hne with hlt | hlt
  · exact absurd (ha'.trans (hf (Nat.succ_le_of_lt hlt))) (Nat.not_le.mpr hb)
  · exact absurd (hb'.trans (hf (Nat.succ_le_of_lt hlt))) (Nat.not_le.mpr ha)

/-- A number that lies between two values of a function lies between two neighbouring ones. -/
private theorem exists_between {f : Nat → Nat} {a b n : Nat} (hab : a ≤ b) (ha : f a < n)
    (hb : n ≤ f b) : ∃ k, a ≤ k ∧ k < b ∧ f k < n ∧ n ≤ f (k + 1) := by
  induction b, hab using Nat.le_induction with
  | base => exact absurd hb (Nat.not_le.mpr ha)
  | succ b hab ih =>
    rcases Nat.lt_or_ge (f b) n with hlt | hge
    · exact ⟨b, hab, Nat.lt_succ_self b, hlt, hb⟩
    · obtain ⟨k, hak, hkb, hk, hk'⟩ := ih hge
      exact ⟨k, hak, Nat.lt_succ_of_lt hkb, hk, hk'⟩

/-- A search finds the only item with a property. -/
theorem find?_eq_some_of_unique {p : α → Bool} {l : List α} {a : α} (hmem : a ∈ l)
    (ha : p a = true) (honly : ∀ b ∈ l, p b = true → b = a) : l.find? p = some a := by
  obtain ⟨b, hb⟩ := Option.isSome_iff_exists.mp (List.find?_isSome.mpr ⟨a, hmem, ha⟩)
  rw [hb, honly b (List.mem_of_find?_eq_some hb) (List.find?_some hb)]

/-! ## Years and months -/

/-- The number of days of a year. -/
def daysInYear (year : Nat) : Nat := if isLeapYear year then 366 else 365

private theorem isLeapYear_iff (year : Nat) :
    isLeapYear year = true ↔ year % 4 = 0 ∧ (year % 100 ≠ 0 ∨ year % 400 = 0) := by
  simp [isLeapYear]

/-- The days before a year are counted by the leap years before it. -/
theorem daysBeforeYear_eq (year : Nat) : daysBeforeYear year =
    365 * (year - 1) + (year - 1) / 4 - (year - 1) / 100 + (year - 1) / 400 := rfl

/-- The days before the next year are those before a year and those of the year. -/
theorem daysBeforeYear_succ {year : Nat} (h : 1 ≤ year) :
    daysBeforeYear (year + 1) = daysBeforeYear year + daysInYear year := by
  obtain ⟨y, rfl⟩ := Nat.exists_eq_add_of_le' h
  have hquarter : (y + 1) / 4 = y / 4 + if (y + 1) % 4 = 0 then 1 else 0 := by split <;> omega
  have hcentury : (y + 1) / 100 = y / 100 + if (y + 1) % 100 = 0 then 1 else 0 := by
    split <;> omega
  have hcycle : (y + 1) / 400 = y / 400 + if (y + 1) % 400 = 0 then 1 else 0 := by
    split <;> omega
  have hless : y / 100 ≤ y / 4 := by omega
  rw [daysBeforeYear_eq, daysBeforeYear_eq, Nat.add_sub_cancel, Nat.add_sub_cancel, hquarter,
    hcentury, hcycle, daysInYear]
  by_cases hfour : (y + 1) % 4 = 0
  · by_cases hhundred : (y + 1) % 100 = 0
    · by_cases hall : (y + 1) % 400 = 0
      · rw [if_pos hfour, if_pos hhundred, if_pos hall,
          if_pos ((isLeapYear_iff _).mpr ⟨hfour, .inr hall⟩)]
        omega
      · rw [if_pos hfour, if_pos hhundred, if_neg hall,
          if_neg fun hleap => ((isLeapYear_iff _).mp hleap).2.elim (· hhundred) hall]
        omega
    · rw [if_pos hfour, if_neg hhundred, if_neg (by omega),
        if_pos ((isLeapYear_iff _).mpr ⟨hfour, .inl hhundred⟩)]
      omega
  · rw [if_neg hfour, if_neg (by omega), if_neg (by omega),
      if_neg fun hleap => hfour ((isLeapYear_iff _).mp hleap).1]
    omega

/-- The days before years grow. -/
theorem daysBeforeYear_mono : Monotone daysBeforeYear := by
  refine monotone_nat_of_le_succ fun year => ?_
  rw [daysBeforeYear_eq, daysBeforeYear_eq]
  omega

/-- The days before the next month are those before a month and those of the month. -/
theorem daysBeforeMonth_succ (year : Nat) {month : Nat} (h : 1 ≤ month) :
    daysBeforeMonth year (month + 1) = daysBeforeMonth year month + daysInMonth year month := by
  obtain ⟨m, rfl⟩ := Nat.exists_eq_add_of_le' h
  simp [daysBeforeMonth, List.range_succ]

/-- The days before months grow. -/
theorem daysBeforeMonth_mono (year : Nat) : Monotone (daysBeforeMonth year) := by
  refine monotone_nat_of_le_succ fun month => ?_
  cases month with
  | zero => exact Nat.le_refl _
  | succ m =>
    rw [daysBeforeMonth_succ year (Nat.le_add_left 1 m)]
    exact Nat.le_add_right _ _

/-- The months of a year make up the year. -/
theorem daysBeforeMonth_thirteen (year : Nat) : daysBeforeMonth year 13 = daysInYear year := by
  have hmonths : daysBeforeMonth year 13 = 337 + daysInMonth year 2 := by
    simp [daysBeforeMonth, List.range_succ, daysInMonth]
    omega
  rw [hmonths, daysInMonth, if_pos rfl, daysInYear]
  split <;> rfl

/-! ## Dates -/

namespace Date

/-- The bounds of the year, the month and the day of a date. -/
theorem bounds (d : Date) : (1 ≤ d.year ∧ d.year ≤ 9999) ∧ (1 ≤ d.month ∧ d.month ≤ 12) ∧
    1 ≤ d.day ∧ d.day ≤ daysInMonth d.year d.month := by
  simpa [isDate, and_assoc] using d.valid

/-- The number of the day within its year. -/
def dayOfYear (d : Date) : Nat := daysBeforeMonth d.year d.month + d.day

/-- A day lies in its month. -/
theorem dayOfYear_month (d : Date) : daysBeforeMonth d.year d.month < d.dayOfYear ∧
    d.dayOfYear ≤ daysBeforeMonth d.year (d.month + 1) := by
  obtain ⟨-, ⟨hfirst, -⟩, hday, hend⟩ := d.bounds
  rw [daysBeforeMonth_succ d.year hfirst, dayOfYear]
  omega

/-- The days before a date are those before its year and those of the year. -/
theorem dayNumber_eq (d : Date) : d.dayNumber = daysBeforeYear d.year + d.dayOfYear :=
  Nat.add_assoc _ _ _

/-- A day lies in its year. -/
theorem dayNumber_year (d : Date) :
    daysBeforeYear d.year < d.dayNumber ∧ d.dayNumber ≤ daysBeforeYear (d.year + 1) := by
  obtain ⟨⟨hfirst, -⟩, ⟨-, hlast⟩, -⟩ := d.bounds
  obtain ⟨hafter, hbefore⟩ := d.dayOfYear_month
  have hyear : daysBeforeMonth d.year (d.month + 1) ≤ daysBeforeMonth d.year 13 :=
    daysBeforeMonth_mono d.year (by omega)
  rw [daysBeforeMonth_thirteen] at hyear
  rw [daysBeforeYear_succ hfirst, dayNumber_eq]
  omega

/-- The year of a day is guessed from the mean length of years. -/
private theorem year_near (d : Date) : d.dayNumber * 400 / 146097 ≤ d.year ∧
    d.year ≤ d.dayNumber * 400 / 146097 + 2 := by
  obtain ⟨hafter, hbefore⟩ := d.dayNumber_year
  obtain ⟨⟨hfirst, -⟩, -⟩ := d.bounds
  rw [daysBeforeYear_eq] at hafter hbefore
  omega

/-- The year of a date is found by the number of its day. -/
theorem yearNear?_dayNumber (d : Date) :
    yearNear? (d.dayNumber * 400 / 146097) d.dayNumber = some d.year := by
  obtain ⟨hafter, hbefore⟩ := d.dayNumber_year
  obtain ⟨hlow, hhigh⟩ := d.year_near
  refine find?_eq_some_of_unique ?_ ?_ ?_
  · simp only [List.mem_cons, List.not_mem_nil, or_false]
    omega
  · simp only [hafter, hbefore, decide_true, Bool.and_self]
  · intro year _ hyear
    simp only [Bool.and_eq_true, decide_eq_true_eq] at hyear
    exact eq_of_between daysBeforeYear_mono hyear.1 hyear.2 hafter hbefore

/-- The month of a date is found by the number of its day within the year. -/
theorem monthOf?_dayOfYear (d : Date) : monthOf? d.year d.dayOfYear = some d.month := by
  obtain ⟨-, ⟨hfirst, hlast⟩, hday, hend⟩ := d.bounds
  obtain ⟨hafter, hbefore⟩ := d.dayOfYear_month
  refine find?_eq_some_of_unique ?_ ?_ ?_
  · simp only [List.mem_cons, List.not_mem_nil, or_false]
    omega
  · simp only [← daysBeforeMonth_succ d.year hfirst, hafter, hbefore, decide_true, Bool.and_self]
  · intro month hmonth hholds
    have hpos : 1 ≤ month := by
      simp only [List.mem_cons, List.not_mem_nil, or_false] at hmonth
      omega
    simp only [← daysBeforeMonth_succ d.year hpos, Bool.and_eq_true, decide_eq_true_eq] at hholds
    exact eq_of_between (daysBeforeMonth_mono d.year) hholds.1 hholds.2 hafter hbefore

/-- Every date is found by the number of its day. -/
theorem ofDayNumber?_dayNumber (d : Date) : ofDayNumber? d.dayNumber = some d := by
  have hday : d.dayNumber - daysBeforeYear d.year = d.dayOfYear := by
    rw [dayNumber_eq, Nat.add_sub_cancel_left]
  have hrest : d.dayOfYear - daysBeforeMonth d.year d.month = d.day := by
    rw [dayOfYear, Nat.add_sub_cancel_left]
  have hof : Date.of d.year d.month d.day = .ok d := dif_pos d.valid
  simp only [ofDayNumber?, yearNear?_dayNumber, hday, monthOf?_dayOfYear, hrest, hof]
  rfl

/-- Every day of the years 1 to 9999 is the day of a date. -/
theorem exists_dayNumber {n : Nat} (hfirst : 0 < n) (hlast : n ≤ daysBeforeYear 10000) :
    ∃ d : Date, d.dayNumber = n := by
  obtain ⟨year, hyear, hyear', hafter, hbefore⟩ :=
    exists_between (f := daysBeforeYear) (show 1 ≤ 10000 by decide) hfirst hlast
  rw [daysBeforeYear_succ hyear, ← daysBeforeMonth_thirteen] at hbefore
  obtain ⟨month, hmonth, hmonth', hfrom, hto⟩ :=
    exists_between (f := daysBeforeMonth year) (n := n - daysBeforeYear year)
      (show 1 ≤ 13 by decide) (show 0 < n - daysBeforeYear year by omega) (by omega)
  rw [daysBeforeMonth_succ year hmonth] at hto
  refine ⟨⟨year, month, n - daysBeforeYear year - daysBeforeMonth year month, ?_⟩, ?_⟩
  · simp only [isDate, Bool.and_eq_true, decide_eq_true_eq]
    omega
  · simp only [dayNumber]
    omega

/-- Days come in the order of their dates. -/
theorem dayNumber_lt_iff {a b : Date} : a.dayNumber < b.dayNumber ↔
    a.year < b.year ∨ a.year = b.year ∧
      (a.month < b.month ∨ a.month = b.month ∧ a.day < b.day) := by
  have hyears : ∀ {c d : Date}, c.year < d.year → c.dayNumber < d.dayNumber := by
    intro c d hlt
    exact (c.dayNumber_year.2.trans (daysBeforeYear_mono hlt)).trans_lt d.dayNumber_year.1
  have hmonths : ∀ {c d : Date}, c.year = d.year → c.month < d.month →
      c.dayNumber < d.dayNumber := by
    intro c d hyear hlt
    have hnext := c.dayOfYear_month.2.trans (daysBeforeMonth_mono c.year hlt)
    have hafter := d.dayOfYear_month.1
    rw [dayNumber_eq, dayNumber_eq, ← hyear]
    rw [← hyear] at hafter
    omega
  have hdays : a.year = b.year → a.month = b.month →
      (a.dayNumber < b.dayNumber ↔ a.day < b.day) := by
    intro hyear hmonth
    rw [dayNumber, dayNumber, hyear, hmonth, Nat.add_lt_add_iff_left]
  rcases Nat.lt_trichotomy a.year b.year with hyear | hyear | hyear
  · exact iff_of_true (hyears hyear) (.inl hyear)
  · rcases Nat.lt_trichotomy a.month b.month with hmonth | hmonth | hmonth
    · exact iff_of_true (hmonths hyear hmonth) (.inr ⟨hyear, .inl hmonth⟩)
    · rw [hdays hyear hmonth]
      omega
    · have := hmonths hyear.symm hmonth
      omega
  · have := hyears hyear
    omega

end Date

end RestContract
