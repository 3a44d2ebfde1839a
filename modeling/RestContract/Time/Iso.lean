import RestContract.Time.Moment
import RestContract.Number.Numeral

/-!
# Reading dates and moments

A date is written with or without hyphens, as month and day or as a week and possibly a
day of the week. A moment is a date, any one character, and a clock time of two digits
each for hour, minute and second, all joined by colons or none, with a fraction of which
six digits count. `Z` or a sign and another clock time may follow. What stands between
the last complete part of the clock time and that offset is skipped.
-/

namespace RestContract.Iso

open Number (isDigit digitsValue)

/-- Why a text is not read as a date or a moment. -/
inductive ReadError where
  /-- The text has no such form. -/
  | form
  /-- The parts name no date. -/
  | date (fault : DateFault)
  /-- The hour is above 23. -/
  | hour
  /-- The minute is above 59. -/
  | minute
  /-- The second is above 59. -/
  | second
  /-- The clock is a day or more away from universal time, by so many microseconds. -/
  | offset (micros : Int)
  deriving DecidableEq, Repr

/-- The value of exactly `n` digits at the beginning, and the rest. -/
def digits? (n : Nat) (cs : List Char) : Option (Nat × List Char) :=
  let ds := cs.take n
  if ds.length = n && ds.all isDigit then some (digitsValue 0 ds, cs.drop n) else none

/-- The date of a week and a day of the week. -/
def weekDate (year week weekday : Nat) : Option (Except DateFault Date) :=
  (Date.weekDay? year week weekday).map fun (n : Int) =>
    if year < 1 || n < 1 then .error .month
    else match Date.ofDayNumber? n.toNat with
      | some d => .ok d
      | none => .error (.year 10000)

/-- Reads the parts of a date, none when the text has no such form; what stands behind the day is
not looked at. -/
def dateOf? (cs : List Char) : Option (Except DateFault Date) :=
  match digits? 4 cs with
  | none => none
  | some (year, rest) =>
    let hyphens := rest.head? = some '-'
    let rest := if hyphens then rest.drop 1 else rest
    if rest.head? = some 'W' then
      match digits? 2 (rest.drop 1) with
      | none => none
      | some (week, []) => weekDate year week 1
      | some (week, rest) =>
        if hyphens && rest.head? ≠ some '-' then none
        else match digits? 1 (if hyphens then rest.drop 1 else rest) with
          | none => none
          | some (weekday, _) => weekDate year week weekday
    else
      match digits? 2 rest with
      | none => none
      | some (month, rest) =>
        if hyphens && rest.head? ≠ some '-' then none
        else match digits? 2 (if hyphens then rest.drop 1 else rest) with
          | some (day, _) => some (Date.of year month day)
          | none => none

/-- The number of bytes of a text. -/
def byteCount (cs : List Char) : Nat := cs.foldl (fun n c => n + c.utf8Size) 0

/-- Reads a date, in a text of seven, eight or ten bytes. -/
def readDate (cs : List Char) : Except ReadError Date :=
  if byteCount cs = 7 || byteCount cs = 8 || byteCount cs = 10 then
    match dateOf? cs with
    | none => .error .form
    | some date => date.mapError .date
  else .error .form

/-- The parts of a clock time. -/
structure ClockParts where
  /-- The hours. -/
  hour : Nat
  /-- The minutes. -/
  minute : Nat
  /-- The seconds. -/
  second : Nat
  /-- The microseconds. -/
  micro : Nat
  /-- Whether characters are left that belong to no part. -/
  leftover : Bool

/-- The microseconds of a clock time. -/
def ClockParts.micros (p : ClockParts) : Nat :=
  ((p.hour * 60 + p.minute) * 60 + p.second) * 1000000 + p.micro

/-- Whether something is left to be read; a null character ends a text. -/
def isLeft (cs : List Char) : Bool := cs.head?.any (·.toNat ≠ 0)

/-- Reads the digits of a fraction, of which six count. -/
def fraction? (parts : ClockParts) (cs : List Char) : Option ClockParts :=
  let n := min cs.length 6
  (digits? n cs).map fun (value, rest) =>
    { parts with
      micro := value * Nat.pow 10 (6 - n)
      leftover := isLeft (rest.dropWhile isDigit) }

/-- What follows two digits of a clock time. -/
inductive Follow where
  /-- Nothing, or a single byte with nothing behind it. -/
  | finished (leftover : Bool)
  /-- The next part. -/
  | next (rest : List Char)
  /-- A fraction. -/
  | places (rest : List Char)
  /-- A character that cannot stand there. -/
  | wrong

/-- Looks at what follows two digits, where parts are joined by colons or not at all. -/
def follow (colons : Bool) : List Char → Follow
  | [] => .finished false
  | c :: rest =>
    if rest.isEmpty && c.utf8Size = 1 then .finished (isLeft [c])
    else if colons && c = ':' then .next rest
    else if c = '.' || c = ',' then .places rest
    else if !colons then .next (c :: rest)
    else .wrong

/-- What follows two digits when an offset stands behind the given characters. -/
def followBefore (offset colons : Bool) (cs : List Char) : Follow :=
  match cs with
  | [] => .finished offset
  | cs => follow colons cs

/-- Reads a clock time; `offset` says whether an offset stands behind it. -/
def clock? (offset : Bool) (cs : List Char) : Option ClockParts :=
  match digits? 2 cs with
  | none => none
  | some (hour, cs) =>
    let colons := cs.head? = some ':'
    match followBefore offset colons cs with
    | .finished leftover => some ⟨hour, 0, 0, 0, leftover⟩
    | .wrong => none
    | .places rest => fraction? ⟨hour, 0, 0, 0, false⟩ rest
    | .next cs =>
      match digits? 2 cs with
      | none => none
      | some (minute, cs) =>
        match followBefore offset colons cs with
        | .finished leftover => some ⟨hour, minute, 0, 0, leftover⟩
        | .wrong => none
        | .places rest => fraction? ⟨hour, minute, 0, 0, false⟩ rest
        | .next cs =>
          match digits? 2 cs with
          | none => none
          | some (second, cs) =>
            match followBefore offset colons cs with
            | .finished leftover => some ⟨hour, minute, second, 0, leftover⟩
            | .wrong => none
            | .places rest => fraction? ⟨hour, minute, second, 0, false⟩ rest
            | .next rest => fraction? ⟨hour, minute, second, 0, false⟩ rest

/-- Whether a character begins an offset. -/
def beginsOffset (c : Char) : Bool := c = '+' || c = '-' || c = 'Z'

/-- The offset that a clock time stands for, in microseconds; one of less than a second is none. -/
def ClockParts.toOffset (shift : ClockParts) (negative : Bool) : Int :=
  if shift.micros < 1000000 then 0 else if negative then -(shift.micros : Int) else shift.micros

/-- A clock time and the offset behind it, in microseconds. -/
def clockWithOffset? (cs : List Char) : Option (ClockParts × Option Int) :=
  match cs.dropWhile fun c => !beginsOffset c with
  | [] =>
    match clock? false cs with
    | some parts => if parts.leftover then none else some (parts, none)
    | none => none
  | mark :: zone =>
    match clock? true (cs.takeWhile fun c => !beginsOffset c) with
    | none => none
    | some parts =>
      if mark = 'Z' then (if isLeft zone then none else some (parts, some 0))
      else match clock? false zone with
        | some shift =>
          if shift.leftover then none
          else some (parts, some (shift.toOffset (mark = '-')))
        | none => none

/-- The moment of a date and the parts of a clock time. -/
def momentOf (date : Except DateFault Date) (parts : ClockParts) (offset : Option Int) :
    Except ReadError Moment :=
  match h : offset.all fun o => decide (o.natAbs < dayLength) with
  | false => .error (.offset (offset.getD 0))
  | true =>
    match date with
    | .error fault => .error (.date fault)
    | .ok date =>
      if 23 < parts.hour then .error .hour
      else if 59 < parts.minute then .error .minute
      else if 59 < parts.second then .error .second
      else
        let n := parts.micros
        if hn : n < dayLength then
          .ok ⟨date, n, offset, hn, by intro o ho; subst ho; simpa using h⟩
        else .error .form

/-- Where the date of a moment ends. -/
def dateEnd (cs : List Char) : Nat :=
  let digitAt (i : Nat) := (cs[i]?.map isDigit).getD false
  if cs.length = 7 then 7
  else if cs[4]? = some '-' then
    if cs[5]? = some 'W' then
      if cs.length < 8 then 0
      else if cs[8]? = some '-' then
        if cs.length = 9 then 0
        else if digitAt 10 then 8
        else 10
      else 8
    else 10
  else if cs[4]? = some 'W' then
    let stop := 7 + ((cs.drop 7).takeWhile isDigit).length
    if stop < 9 then stop else if stop % 2 = 0 then 7 else 8
  else 8

/-- Reads a moment; a date alone is its midnight. -/
def readMoment (cs : List Char) : Except ReadError Moment :=
  if cs.length < 7 then .error .form
  else
    let stop := dateEnd cs
    match dateOf? (cs.take stop), cs.drop stop with
    | none, _ => .error .form
    | some date, [] => (date.map Moment.midnight).mapError .date
    | some date, _ :: rest =>
      match clockWithOffset? rest with
      | none => .error .form
      | some (parts, offset) => momentOf date parts offset

/-- A span of time as it is shown in messages: whole days, and the seconds and microseconds on top
of them. -/
def spanText (micros : Int) : String :=
  let days := micros / dayLength
  let rest := micros % dayLength
  let parts := [("days", days), ("seconds", rest / 1000000), ("microseconds", rest % 1000000)]
  let shown := (parts.filter fun p => p.2 ≠ 0).map fun p => p.1 ++ "=" ++ toString p.2
  "datetime.timedelta(" ++ (if shown.isEmpty then "0" else ", ".intercalate shown) ++ ")"

/-- The message of an error, for the quoted text that could not be read. -/
def ReadError.message (quotedText : String) : ReadError → String
  | .form => "Invalid isoformat string: " ++ quotedText
  | .date (.year y) => "year " ++ toString y ++ " is out of range"
  | .date .month => "month must be in 1..12"
  | .date .day => "day is out of range for month"
  | .hour => "hour must be in 0..23"
  | .minute => "minute must be in 0..59"
  | .second => "second must be in 0..59"
  | .offset micros =>
    "offset must be a timedelta strictly between -timedelta(hours=24) and timedelta(hours=24), " ++
      "not " ++ spanText micros ++ "."

end RestContract.Iso
