import RestContract.Text.Blank

/-!
# Calendar dates

Dates of the years 1 to 9999 in the calendar with leap years every four years but for
three centuries in four. Days are counted from the first of January of the year 1,
which is day 1. Weeks begin on Monday and belong to the year that holds their Thursday.
-/

namespace RestContract

/-- Whether a year has a leap day. -/
def isLeapYear (year : Nat) : Bool := year % 4 == 0 && (year % 100 != 0 || year % 400 == 0)

/-- The number of days of a month. -/
def daysInMonth (year month : Nat) : Nat :=
  if month = 2 then (if isLeapYear year then 29 else 28)
  else if month = 4 || month = 6 || month = 9 || month = 11 then 30
  else 31

/-- The number of days before the first of January of a year. -/
def daysBeforeYear (year : Nat) : Nat :=
  let y := year - 1
  365 * y + y / 4 - y / 100 + y / 400

/-- The number of days of a year before the first of a month. -/
def daysBeforeMonth (year month : Nat) : Nat :=
  (List.range (month - 1)).foldl (fun n m => n + daysInMonth year (m + 1)) 0

/-- Why numbers name no date. -/
inductive DateFault where
  /-- The year is outside 1 to 9999. -/
  | year (value : Nat)
  /-- The month is outside 1 to 12. -/
  | month
  /-- The day is not one of the month's. -/
  | day
  deriving DecidableEq, Repr

/-- Whether numbers name a date. -/
def isDate (year month day : Nat) : Bool :=
  (1 ≤ year && year ≤ 9999) && (1 ≤ month && month ≤ 12) &&
    (1 ≤ day && day ≤ daysInMonth year month)

/-- A calendar date. -/
structure Date where
  /-- The year, from 1 to 9999. -/
  year : Nat
  /-- The month, from 1 to 12. -/
  month : Nat
  /-- The day of the month, from 1. -/
  day : Nat
  /-- The numbers name a date. -/
  valid : isDate year month day = true
  deriving DecidableEq

namespace Date

instance : Inhabited Date := ⟨⟨1, 1, 1, by decide⟩⟩

/-- The date that numbers name. -/
def of (year month day : Nat) : Except DateFault Date :=
  if h : isDate year month day = true then .ok ⟨year, month, day, h⟩
  else if year < 1 || 9999 < year then .error (.year year)
  else if month < 1 || 12 < month then .error .month
  else .error .day

/-- The number of a date's day. -/
def dayNumber (d : Date) : Nat := daysBeforeYear d.year + daysBeforeMonth d.year d.month + d.day

/-- The year that holds a day, if it is one of a few near the given one. -/
def yearNear? (guess day : Nat) : Option Nat :=
  [guess, guess + 1, guess + 2].find? fun y =>
    daysBeforeYear y < day && day ≤ daysBeforeYear (y + 1)

/-- The month that holds a day of a year. -/
def monthOf? (year dayOfYear : Nat) : Option Nat :=
  [1, 2, 3, 4, 5, 6, 7, 8, 9, 10, 11, 12].find? fun m =>
    daysBeforeMonth year m < dayOfYear && dayOfYear ≤ daysBeforeMonth year m + daysInMonth year m

/-- The date with a given day number, if it lies in the years 1 to 9999. -/
def ofDayNumber? (day : Nat) : Option Date :=
  match yearNear? (day * 400 / 146097) day with
  | none => none
  | some year =>
    let dayOfYear := day - daysBeforeYear year
    match monthOf? year dayOfYear with
    | none => none
    | some month => (of year month (dayOfYear - daysBeforeMonth year month)).toOption

/-- The first day of the first week of a year. -/
def firstMonday (year : Nat) : Int :=
  let first : Int := (daysBeforeYear year : Int) + 1
  let weekday := (first + 6) % 7
  let monday := first - weekday
  if weekday > 3 then monday + 7 else monday

/-- The number of weeks of a year is 53 when its first day is a Thursday, or a Wednesday in a leap
year. -/
def hasLongYear (year : Nat) : Bool :=
  let weekday := (daysBeforeYear year + 7) % 7
  weekday == 3 || (weekday == 2 && isLeapYear year)

/-- The day number of a day of a week, when the year has that week. -/
def weekDay? (year week weekday : Nat) : Option Int :=
  if week < 1 || 53 < week ||
    (week == 53 && !hasLongYear year) || weekday < 1 || 7 < weekday then none
  else some (firstMonday year + ((week - 1) * 7 + (weekday - 1) : Nat))

/-- The text of a date: year, month and day joined by hyphens. -/
def text (d : Date) : String :=
  Text.zeroPadded 4 d.year ++ "-" ++ Text.zeroPadded 2 d.month ++ "-" ++ Text.zeroPadded 2 d.day

end Date

end RestContract
