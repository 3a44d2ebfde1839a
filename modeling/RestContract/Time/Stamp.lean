import RestContract.Time.Iso
import RestContract.Number.Numeral

/-!
# Time stamps

The texts and numbers that stand for moments where one is expected. A text has a date with
hyphens and possibly a clock time with colons and an offset; a number counts seconds from
the beginning of 1970, or milliseconds when there are more than twenty milliards of them.
-/

namespace RestContract.Stamp

/-- The moment of universal time that lies some seconds and microseconds after 1970. -/
def momentOfSeconds? (seconds : Int) (micros : Nat) : Option Moment :=
  let seconds := seconds + micros / 1000000
  let micros := micros % 1000000
  let n := (seconds + 719163 * 86400).toNat
  match Date.ofDayNumber? (n / 86400) with
  | none => none
  | some d =>
    let clock := n % 86400 * 1000000 + micros
    if h : clock < dayLength then
      some ⟨d, clock, some 0, h, Moment.universal_lt⟩
    else none

/-- The most seconds that are counted as seconds; larger numbers count milliseconds. -/
def mostSeconds : Nat := 20000000000

/-- The moment that a number of seconds or milliseconds with some microseconds stands for. -/
def momentOfNumber? (n : Int) (micros : Nat) : Option Moment :=
  if n.natAbs ≤ mostSeconds then momentOfSeconds? n micros
  else momentOfSeconds? (n / 1000) ((n % 1000).toNat * 1000 + micros)

/-- The moment that a floating-point number of seconds or milliseconds stands for. -/
def momentOfFloat? (x : Float) : Option Moment :=
  let seconds := if Number.ofWhole mostSeconds < x.abs then x / 1000.0 else x
  (Number.wholeOfFloat? seconds.floor).bind fun n =>
    momentOfSeconds? n ((seconds - seconds.floor) * 1000000.0).round.toUInt64.toNat

/-- The offset at the end of a moment: `Z`, or a sign, which may be the minus of mathematics, and
digits of hours and minutes. -/
def strictOffset? : List Char → Option (Option Int)
  | [] => some none
  | ['Z'] => some (some 0)
  | ['z'] => some (some 0)
  | sign :: rest =>
    let minus := sign = '-' || sign.toNat = 0x2212
    if sign ≠ '+' && !minus then none
    else do
      let (hour, rest) ← Iso.digits? 2 rest
      let (minute, rest) ← Iso.digits? 2 (if rest.head? = some ':' then rest.drop 1 else rest)
      if hour > 23 || minute > 59 || !rest.isEmpty then none
      else
        let n : Int := (hour * 60 + minute) * 60000000
        pure (some (if minus then -n else n))

/-- The fraction and the offset behind the seconds of a clock time. -/
def strictFraction? (cs : List Char) : Option (Nat × List Char) :=
  match cs with
  | mark :: rest =>
    if mark = '.' || mark = ',' then
      let ds := rest.takeWhile Number.isDigit
      if ds.isEmpty then none
      else
        let kept := ds.take 6
        some (Number.digitsValue 0 kept * Nat.pow 10 (6 - kept.length),
          rest.dropWhile Number.isDigit)
    else some (0, cs)
  | [] => some (0, [])

/-- A clock time with colons, and what follows it. -/
def strictClock? (cs : List Char) : Option (Iso.ClockParts × List Char) := do
  let (hour, cs) ← Iso.digits? 2 cs
  if cs.head? ≠ some ':' then none
  else do
    let (minute, cs) ← Iso.digits? 2 (cs.drop 1)
    if cs.head? = some ':' then do
      let (second, cs) ← Iso.digits? 2 (cs.drop 1)
      let (micro, cs) ← strictFraction? cs
      pure (⟨hour, minute, second, micro, false⟩, cs)
    else pure (⟨hour, minute, 0, 0, false⟩, cs)

/-- The date with hyphens at the beginning of a text. -/
def strictDate? (cs : List Char) : Option (Date × List Char) := do
  let (year, cs) ← Iso.digits? 4 cs
  let (month, cs) ← if cs.head? = some '-' then Iso.digits? 2 (cs.drop 1) else none
  let (day, cs) ← if cs.head? = some '-' then Iso.digits? 2 (cs.drop 1) else none
  let date ← (Date.of year month day).toOption
  pure (date, cs)

/-- The moment that a text of seconds stands for: a sign, digits, and possibly a point with digits
behind it. -/
def momentOfDigits? (cs : List Char) : Option Moment :=
  match Number.WholeNumeral.ofText? cs with
  | some w => momentOfNumber? w.value 0
  | none =>
    if (Number.takeSign cs).2.head?.any Number.isDigit && cs.contains '.' then
      match Number.DecimalNumeral.ofText? cs with
      | some d => if cs.any (·.isAlpha) then none else momentOfFloat? d.value
      | none => none
    else none

/-- The moment that a text stands for: a date with hyphens, a mark and a clock time with colons, or
a date alone. -/
def momentOfText? (s : String) : Option Moment :=
  match strictDate? s.toList with
  | some (date, []) => some (Moment.midnight date)
  | some (date, mark :: rest) =>
    if mark = 'T' || mark = 't' || mark = ' ' || mark = '_' then
      match strictClock? rest with
      | none => none
      | some (parts, zone) =>
        match strictOffset? zone with
        | none => none
        | some offset => (Iso.momentOf (.ok date) parts offset).toOption
    else none
  | none => momentOfDigits? s.toList

/-- The date of a moment at midnight. -/
def dateOfMidnight? (t : Moment) : Option Date := if t.clock = 0 then some t.date else none

/-- Whether a text is a date with hyphens and nothing else. -/
def isDateText (s : String) : Bool :=
  match strictDate? s.toList with
  | some (_, []) => true
  | _ => false

/-- The date that a text stands for: one with hyphens, or a count of seconds that is a midnight. -/
def dateOfText? (s : String) : Option Date :=
  match strictDate? s.toList with
  | some (d, []) => some d
  | _ => (momentOfDigits? s.toList).bind dateOfMidnight?

end RestContract.Stamp
