import RestContract.Time.Calendar

/-!
# Dates with a clock time

A moment is a date and a microsecond of that day, and possibly the distance of its clock
from universal time, which is less than a day. A moment without such a distance is taken
to be universal time already.
-/

namespace RestContract

/-- The number of microseconds of a day. -/
def dayLength : Nat := 86400000000

theorem dayLength_pos : 0 < dayLength := by decide

/-- A date with a clock time, and possibly with the distance of its clock from universal time. -/
structure Moment where
  /-- The date that the clock shows. -/
  date : Date
  /-- The microsecond of the day that the clock shows. -/
  clock : Nat
  /-- By how many microseconds the clock is ahead of universal time, if that is known. -/
  offset : Option Int
  /-- The clock shows a time of a day. -/
  clock_lt : clock < dayLength
  /-- The clock is less than a day away from universal time. -/
  offset_lt : ∀ o, offset = some o → o.natAbs < dayLength
  deriving DecidableEq

namespace Moment

/-- A clock of universal time is less than a day away from it. -/
theorem universal_lt (o : Int) (h : some 0 = some o) : o.natAbs < dayLength := by
  cases h
  decide

/-- The hour that the clock shows. -/
def hour (t : Moment) : Nat := t.clock / 3600000000

/-- The minute that the clock shows. -/
def minute (t : Moment) : Nat := t.clock / 60000000 % 60

/-- The second that the clock shows. -/
def second (t : Moment) : Nat := t.clock / 1000000 % 60

/-- The microsecond of the second. -/
def micro (t : Moment) : Nat := t.clock % 1000000

/-- The first moment of a date, with no known offset. -/
def midnight (d : Date) : Moment := ⟨d, 0, none, by decide, by simp⟩

/-- The microseconds of universal time from the day before the first one to a moment. -/
def instant (t : Moment) : Int :=
  (t.date.dayNumber * dayLength + t.clock : Nat) - t.offset.getD 0

/-- The same moment on a clock of universal time, unless that leaves the calendar. -/
def toUniversal? (t : Moment) : Option Moment :=
  if t.instant < 0 then none
  else
    let n := t.instant.toNat
    (Date.ofDayNumber? (n / dayLength)).map fun d =>
      ⟨d, n % dayLength, some 0, Nat.mod_lt _ dayLength_pos, universal_lt⟩

/-- The offset of a clock as a sign, hours and minutes, with seconds and microseconds when there are
any. -/
def offsetText (o : Int) : String :=
  let n := o.natAbs
  let micro := n % 1000000
  let second := n / 1000000 % 60
  (if o < 0 then "-" else "+") ++ Text.zeroPadded 2 (n / 3600000000) ++ ":" ++
    Text.zeroPadded 2 (n / 60000000 % 60) ++
    (if second = 0 ∧ micro = 0 then "" else ":" ++ Text.zeroPadded 2 second) ++
    (if micro = 0 then "" else "." ++ Text.zeroPadded 6 micro)

/-- The clock time, with microseconds when there are any. -/
def clockText (t : Moment) : String :=
  Text.zeroPadded 2 t.hour ++ ":" ++ Text.zeroPadded 2 t.minute ++ ":" ++
    Text.zeroPadded 2 t.second ++
    (if t.micro = 0 then "" else "." ++ Text.zeroPadded 6 t.micro)

/-- The text of a moment with a separator between date and clock time. -/
def text (separator : String) (t : Moment) : String :=
  t.date.text ++ separator ++ t.clockText ++ (t.offset.map offsetText).getD ""

/-- The text of a moment in a payload: universal time is marked `Z`, and seconds of the offset are
dropped. -/
def payloadText (t : Moment) : String :=
  let zone := match t.offset with
    | none => ""
    | some o =>
      let seconds := o / 1000000
      if seconds = 0 then "Z"
      else
        let minutes := seconds.natAbs / 60
        (if seconds < 0 then "-" else "+") ++ Text.zeroPadded 2 (minutes / 60) ++ ":" ++
          Text.zeroPadded 2 (minutes % 60)
  t.date.text ++ "T" ++ t.clockText ++ zone

/-- The text of a moment on the wire: universal time to the second,
or nothing outside the calendar. -/
def wireText? (t : Moment) : Option String :=
  let at? := match t.offset with
    | none => some t
    | some 0 => some t
    | some _ => t.toUniversal?
  at?.map fun u =>
    toString u.date.year ++ "-" ++ Text.zeroPadded 2 u.date.month ++ "-" ++
      Text.zeroPadded 2 u.date.day ++ "T" ++ Text.zeroPadded 2 u.hour ++ ":" ++
      Text.zeroPadded 2 u.minute ++ ":" ++ Text.zeroPadded 2 u.second ++ "Z"

end Moment

end RestContract
