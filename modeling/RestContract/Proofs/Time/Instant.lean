import RestContract.Endpoint.Wire
import RestContract.Proofs.Number.Order
import RestContract.Proofs.Time.Calendar
import RestContract.Proofs.Time.Iso

/-!
# Moments on the wire

Every moment whose universal time has a year of four digits is shown by a clock of
universal time too, since each day of these years is the day of a date. On the wire stands
what that clock shows, to the second, and it is read back as the same instant rounded
down. The parts of the text have fixed widths and the greatest part comes first, so the
texts come in the order of the seconds.
-/

namespace RestContract

namespace Moment

/-- The universal time of a moment lies in the years 1000 to 9999. -/
def HasFullYear (t : Moment) : Prop :=
  ((daysBeforeYear 1000 + 1) * dayLength : Nat) ≤ t.instant ∧
    t.instant < ((daysBeforeYear 10000 + 1) * dayLength : Nat)

instance (t : Moment) : Decidable t.HasFullYear := inferInstanceAs (Decidable (_ ∧ _))

/-- A clock that shows universal time. -/
def IsUniversal (t : Moment) : Prop := t.offset.getD 0 = 0

/-- What a clock of universal time shows is the instant. -/
theorem IsUniversal.instant_eq {t : Moment} (h : t.IsUniversal) :
    t.instant = (t.date.dayNumber * dayLength + t.clock : Nat) := by
  rw [instant, h, sub_zero]

/-- A moment whose universal time has a year of four digits is found on a clock of that time. -/
theorem HasFullYear.exists_toUniversal {t : Moment} (h : t.HasFullYear) :
    ∃ u, t.toUniversal? = some u ∧ u.IsUniversal ∧ u.instant = t.instant := by
  obtain ⟨hfirst, hlast⟩ := h
  have hpos : ¬t.instant < 0 := by omega
  obtain ⟨n, hn⟩ := Int.eq_ofNat_of_zero_le (Int.not_lt.mp hpos)
  rw [hn] at hfirst hlast
  have hafter : 0 < n / dayLength := by
    simp only [dayLength] at *
    omega
  have hbefore : n / dayLength ≤ daysBeforeYear 10000 := by
    simp only [dayLength] at *
    omega
  obtain ⟨d, hd⟩ := Date.exists_dayNumber hafter hbefore
  have hu : IsUniversal ⟨d, n % dayLength, some 0, Nat.mod_lt _ dayLength_pos, universal_lt⟩ := rfl
  refine ⟨_, ?_, hu, ?_⟩
  · rw [toUniversal?, if_neg hpos]
    simp only [hn, Int.toNat_natCast, ← hd, Date.ofDayNumber?_dayNumber, Option.map_some]
  · rw [hu.instant_eq, hn]
    simp only [hd, Nat.div_add_mod']

private theorem HasFullYear.exists_universal {t : Moment} (h : t.HasFullYear) :
    ∃ u, t.universal? = some u ∧ u.IsUniversal ∧ u.instant = t.instant := by
  unfold universal?
  split
  next ho => exact ⟨t, rfl, by rw [IsUniversal, ho]; rfl, rfl⟩
  next ho => exact ⟨t, rfl, by rw [IsUniversal, ho]; rfl, rfl⟩
  next => exact h.exists_toUniversal

/-- On a clock of universal time the year has four digits. -/
theorem IsUniversal.hasFullYear_iff {t : Moment} (hu : t.IsUniversal) :
    t.HasFullYear ↔ 1000 ≤ t.date.year := by
  obtain ⟨hafter, hbefore⟩ := t.date.dayNumber_year
  have hclock := t.clock_lt
  rw [HasFullYear, hu.instant_eq]
  constructor
  · rintro ⟨hfirst, -⟩
    by_contra hless
    have hearly := hbefore.trans (daysBeforeYear_mono (Nat.succ_le_of_lt (Nat.not_le.mp hless)))
    simp only [dayLength] at *
    omega
  · intro hyear
    have hfrom := daysBeforeYear_mono hyear
    have hto : daysBeforeYear (t.date.year + 1) ≤ daysBeforeYear 10000 :=
      daysBeforeYear_mono (Nat.succ_le_succ t.date.bounds.1.2)
    simp only [dayLength] at *
    omega

private theorem IsUniversal.toSecond_instant {t : Moment} (hu : t.IsUniversal) :
    t.toSecond.instant = t.instant - t.instant % 1000000 := by
  have hclock : t.toSecond.clock = t.clock - t.clock % 1000000 := rfl
  have hdate : t.toSecond.date = t.date := rfl
  rw [IsUniversal.instant_eq (t := t.toSecond) rfl, hu.instant_eq, hclock, hdate]
  simp only [dayLength]
  omega

/-! ## The order of the texts -/

/-- The text of a moment of universal time to the second. -/
def stamp (t : Moment) : String :=
  t.date.text ++ "T" ++ Text.zeroPadded 2 t.hour ++ ":" ++ Text.zeroPadded 2 t.minute ++ ":" ++
    Text.zeroPadded 2 t.second ++ "Z"

private theorem append_lt_append_left_iff (front back back' : List Char) :
    front ++ back < front ++ back' ↔ back < back' := by
  rw [Text.append_lt_append_iff rfl]
  simp

/-- The texts are compared part by part. -/
theorem stamp_lt_iff_parts (t u : Moment) : t.stamp < u.stamp ↔
    t.date.year < u.date.year ∨ t.date.year = u.date.year ∧
      (t.date.month < u.date.month ∨ t.date.month = u.date.month ∧
        (t.date.day < u.date.day ∨ t.date.day = u.date.day ∧
          (t.hour < u.hour ∨ t.hour = u.hour ∧
            (t.minute < u.minute ∨ t.minute = u.minute ∧ t.second < u.second)))) := by
  obtain ⟨hy, hm, hd⟩ := Iso.date_bounds t.date
  obtain ⟨hy', hm', hd'⟩ := Iso.date_bounds u.date
  obtain ⟨hh, hn, hs⟩ := Iso.clock_bounds t
  obtain ⟨hh', hn', hs'⟩ := Iso.clock_bounds u
  have hfour : 0 < 4 := by decide
  have htwo : 0 < 2 := by decide
  have hless : ∀ {n : Nat}, n < 60 → n < 10 ^ 2 := fun h => h.trans (by decide)
  have hless' : ∀ {n : Nat}, n < 24 → n < 10 ^ 2 := fun h => h.trans (by decide)
  have hend : ¬"Z".toList < "Z".toList := List.lt_irrefl _
  rw [String.lt_iff_toList_lt]
  simp only [stamp, Date.text, String.toList_append, List.append_assoc]
  rw [Number.zeroPadded_append_lt_iff hfour hy hy', append_lt_append_left_iff,
    Number.zeroPadded_append_lt_iff htwo hm hm', append_lt_append_left_iff,
    Number.zeroPadded_append_lt_iff htwo hd hd', append_lt_append_left_iff,
    Number.zeroPadded_append_lt_iff htwo (hless' hh) (hless' hh'), append_lt_append_left_iff,
    Number.zeroPadded_append_lt_iff htwo (hless hn) (hless hn'), append_lt_append_left_iff,
    Number.zeroPadded_append_lt_iff htwo (hless hs) (hless hs')]
  simp only [hend, and_false, or_false]

/-- Texts of universal time come in the order of the seconds. -/
theorem IsUniversal.stamp_lt_iff {t u : Moment} (ht : t.IsUniversal) (hu : u.IsUniversal) :
    t.stamp < u.stamp ↔ t.instant / 1000000 < u.instant / 1000000 := by
  have hless := Date.dayNumber_lt_iff (a := t.date) (b := u.date)
  have hgreater := Date.dayNumber_lt_iff (a := u.date) (b := t.date)
  have hclock := t.clock_lt
  have hclock' := u.clock_lt
  rw [stamp_lt_iff_parts, ht.instant_eq, hu.instant_eq]
  simp only [hour, minute, second, dayLength] at *
  omega

/-! ## The form of the texts -/

/-- A text has the form of a picture, in which a zero stands for any digit. -/
def Pictured (picture cs : List Char) : Prop :=
  List.Forall₂ (fun mark c => if mark = '0' then Number.isDigit c = true else c = mark) picture cs

private theorem pictured_zeroPadded {width n : Nat} (hw : 0 < width) (hn : n < 10 ^ width) :
    Pictured (List.replicate width '0') (Text.zeroPadded width n).toList := by
  obtain ⟨hlength, hdigits, -⟩ := Number.zeroPadded_toList hw hn
  refine List.forall₂_iff_get.mpr ⟨by rw [List.length_replicate, hlength], fun i hi hi' => ?_⟩
  rw [List.get_eq_getElem, List.getElem_replicate, if_pos rfl]
  exact hdigits _ (List.getElem_mem hi')

private theorem Pictured.append {picture picture' cs cs' : List Char} (h : Pictured picture cs)
    (h' : Pictured picture' cs') : Pictured (picture ++ picture') (cs ++ cs') :=
  List.rel_append h h'

/-- A moment of universal time is written with four digits for the year and two for each other part,
joined by hyphens and colons, with a `T` before the clock time and a `Z` behind it. -/
theorem pictured_stamp (t : Moment) :
    Pictured "0000-00-00T00:00:00Z".toList t.stamp.toList := by
  obtain ⟨hy, hm, hd⟩ := Iso.date_bounds t.date
  obtain ⟨hh, hn, hs⟩ := Iso.clock_bounds t
  have htwo : ∀ {n : Nat}, n < 100 → Pictured (List.replicate 2 '0') (Text.zeroPadded 2 n).toList :=
    fun hn => pictured_zeroPadded (by decide) hn
  have hfour : Pictured (List.replicate 4 '0') (Text.zeroPadded 4 t.date.year).toList :=
    pictured_zeroPadded (by decide) hy
  have hmark : ∀ {c : Char}, c ≠ '0' → Pictured [c] [c] := fun hc => by simp [Pictured, hc]
  have hdate : Pictured "0000-00-00".toList t.date.text.toList := by
    simp only [Date.text, String.toList_append]
    exact (((hfour.append (hmark (by decide))).append (htwo hm)).append (hmark (by decide))).append
      (htwo hd)
  have hclock : Pictured "T00:00:00Z".toList (['T'] ++ (Text.zeroPadded 2 t.hour).toList ++ [':'] ++
      (Text.zeroPadded 2 t.minute).toList ++ [':'] ++ (Text.zeroPadded 2 t.second).toList ++
        ['Z']) := by
    have hhour := (hmark (c := 'T') (by decide)).append (htwo (show t.hour < 100 by omega))
    have hminute := (hhour.append (hmark (c := ':') (by decide))).append
      (htwo (show t.minute < 100 by omega))
    have hsecond := (hminute.append (hmark (c := ':') (by decide))).append
      (htwo (show t.second < 100 by omega))
    exact hsecond.append (hmark (by decide))
  have hwhole := hdate.append hclock
  simp only [stamp, String.toList_append, List.append_assoc] at hwhole ⊢
  exact hwhole

/-- On the wire stands the text of the same instant rounded down, and it is read back as that. -/
theorem HasFullYear.exists_stamp {t : Moment} (h : t.HasFullYear) :
    ∃ u : Moment, u.offset = some 0 ∧ u.micro = 0 ∧
      u.instant = t.instant - t.instant % 1000000 ∧ t.wireText? = some u.stamp ∧
      Iso.readMoment u.stamp.toList = .ok u := by
  obtain ⟨u, hu, huniversal, hinstant⟩ := h.exists_universal
  have hyear : 1000 ≤ u.date.year := by
    rwa [← huniversal.hasFullYear_iff, HasFullYear, hinstant]
  obtain ⟨s, hs, hread⟩ := readMoment_of_universal hu hyear
  have hwritten : u.toSecond.wireText? = some u.toSecond.stamp :=
    Iso.wireText?_eq (t := u.toSecond) rfl hyear
  have hstamp := (wireText?_universal hu).trans hwritten
  obtain rfl := Option.some.inj (hstamp.symm.trans hs)
  have hsecond := huniversal.toSecond_instant
  rw [hinstant] at hsecond
  exact ⟨u.toSecond, rfl, u.toSecond_parts.2.2.2, hsecond, hstamp, hread⟩

end Moment

/-- Every moment whose universal time lies in the years 1000 to 9999, on whatever clock, is sent as
year, month, day, hour, minute and second of universal time, and read as the moment of universal
time that is the same instant rounded down to the second. The texts of two such moments come in the
order of their seconds, so the text of the earlier moment does not come after the other. -/
theorem Parameter.decode_encode_moment {p : Parameter} (hp : p.type = .date) {t : Moment}
    (ht : t.HasFullYear) :
    ∃ text u, p.encode (.moment t) = .ok text ∧
      Moment.Pictured "0000-00-00T00:00:00Z".toList text.toList ∧
      p.decode text = .ok (.moment u) ∧ u.offset = some 0 ∧ u.micro = 0 ∧
      u.instant = t.instant - t.instant % 1000000 ∧
      ∀ (t' : Moment) (text' : String), t'.HasFullYear → p.encode (.moment t') = .ok text' →
        (text ≤ text' ↔ t.instant / 1000000 ≤ t'.instant / 1000000) ∧
          (t.instant ≤ t'.instant → text ≤ text') := by
  have hencode : ∀ {t u : Moment}, t.wireText? = some u.stamp →
      p.encode (.moment t) = .ok u.stamp := fun h => by
    simp only [encode, hp, Value.momentText, h]
  have hseconds : ∀ {t u : Moment}, u.instant = t.instant - t.instant % 1000000 →
      u.instant / 1000000 = t.instant / 1000000 := fun h => by omega
  obtain ⟨u, ho, hmicro, hinstant, hwire, hread⟩ := ht.exists_stamp
  refine ⟨u.stamp, u, hencode hwire, u.pictured_stamp, ?_, ho, hmicro, hinstant, ?_⟩
  · simp only [decode, hp, hread]
    rfl
  · intro t' text' ht' htext'
    obtain ⟨u', ho', -, hinstant', hwire', -⟩ := ht'.exists_stamp
    obtain rfl := Except.ok.inj (htext'.symm.trans (hencode hwire'))
    have hu : u.IsUniversal := by rw [Moment.IsUniversal, ho]; rfl
    have hu' : u'.IsUniversal := by rw [Moment.IsUniversal, ho']; rfl
    have horder : u.stamp ≤ u'.stamp ↔ t.instant / 1000000 ≤ t'.instant / 1000000 := by
      rw [← String.not_lt, hu'.stamp_lt_iff hu, hseconds hinstant, hseconds hinstant', not_lt]
    exact ⟨horder, fun hle => horder.mpr (Int.ediv_le_ediv (by decide) hle)⟩

/-- A query field for moments. -/
def sinceParameter : Parameter :=
  ⟨.text "since", .date, .query, false, .text "since", none, .shape .moment⟩

/-- Shortly after midnight of the first of March 2024, on a clock that is two hours and a fraction
of a second ahead. -/
def marchMidnight : Moment where
  date := ⟨2024, 3, 1, by decide⟩
  clock := 250000
  offset := some 7200500000
  clock_lt := by decide
  offset_lt := by
    rintro o ⟨⟩
    decide

/-- Taking the offset off goes back over the beginning of the day and of the month into the last
second before ten o'clock of a leap day. -/
theorem decode_encode_marchMidnight :
    marchMidnight.HasFullYear ∧
      sinceParameter.encode (.moment marchMidnight) = .ok "2024-02-29T21:59:59Z" ∧
      ∃ u, sinceParameter.decode "2024-02-29T21:59:59Z" = .ok (.moment u) ∧ u.offset = some 0 ∧
        u.micro = 0 ∧
        u.instant = marchMidnight.instant - marchMidnight.instant % 1000000 := by
  have hyear : marchMidnight.HasFullYear := by decide
  have htext : sinceParameter.encode (.moment marchMidnight) = .ok "2024-02-29T21:59:59Z" := by cbv
  obtain ⟨text, u, hencode, -, hdecode, ho, hmicro, hinstant, -⟩ :=
    Parameter.decode_encode_moment (p := sinceParameter) rfl hyear
  obtain rfl := Except.ok.inj (htext.symm.trans hencode)
  exact ⟨hyear, htext, u, hdecode, ho, hmicro, hinstant⟩

end RestContract
