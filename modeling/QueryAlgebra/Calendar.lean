import QueryAlgebra.Text.Numeral

/-!
# Instants on the calendar

An instant is a count of milliseconds since the start of 1970, in universal time. `Moment.ofMillis`
reads it on the proleptic Gregorian calendar.

* `Date.ofDays`, `Date.toDays` — days since 1970-01-01 and dates. Years are counted from March, so
  that the leap day is the last one of its year, and repeat every 400 years of 146097 days.
* `instantText` — the readable form, with the hour unpadded and at least one decimal of the second.
* `timestampText?` — the interchange form, for the instants of 1970 to 9999.
* `ofTimestamp?` — an instant from its interchange form with any offset from universal time.
-/

namespace QueryAlgebra

/-- A date of the proleptic Gregorian calendar; the year before year 1 is year 0. -/
structure Date where
  year : Int
  month : Nat
  day : Nat
deriving DecidableEq

namespace Date

/-- The date a number of days after 1970-01-01. -/
def ofDays (days : Int) : Date :=
  -- days since 1 March of year 0
  let d := days + 719468
  let era := d / 146097
  let dayOfEra := (d % 146097).toNat
  let yearOfEra := (dayOfEra - dayOfEra / 1460 + dayOfEra / 36524 - dayOfEra / 146096) / 365
  let dayOfYear := dayOfEra - (365 * yearOfEra + yearOfEra / 4 - yearOfEra / 100)
  let monthFromMarch := (5 * dayOfYear + 2) / 153
  let month := if monthFromMarch < 10 then monthFromMarch + 3 else monthFromMarch - 9
  { year := era * 400 + yearOfEra + (if month ≤ 2 then 1 else 0)
    month
    day := dayOfYear - (153 * monthFromMarch + 2) / 5 + 1 }

/-- The days from 1970-01-01 to a date. -/
def toDays (d : Date) : Int :=
  let year := if d.month ≤ 2 then d.year - 1 else d.year
  let era := year / 400
  let yearOfEra := year % 400
  let monthFromMarch := if 2 < d.month then d.month - 3 else d.month + 9
  let dayOfYear : Int := (153 * monthFromMarch + 2) / 5 + d.day - 1
  era * 146097 + yearOfEra * 365 + yearOfEra / 4 - yearOfEra / 100 + dayOfYear - 719468

/-- Whether February has a twenty-ninth day. -/
def isLeapYear (year : Int) : Bool :=
  year % 4 == 0 && (year % 100 != 0 || year % 400 == 0)

/-- The number of days of a month. -/
def daysInMonth (year : Int) (month : Nat) : Nat :=
  if month = 2 then (if isLeapYear year then 29 else 28)
  else if month = 4 ∨ month = 6 ∨ month = 9 ∨ month = 11 then 30
  else 31

/-- Whether a month and a day exist in the year. -/
def isValid (d : Date) : Bool :=
  1 ≤ d.month && d.month ≤ 12 && 1 ≤ d.day && d.day ≤ daysInMonth d.year d.month

end Date

/-- A date and a time of day, to the millisecond. -/
structure Moment where
  date : Date
  hour : Nat
  minute : Nat
  second : Nat
  millisecond : Nat
deriving DecidableEq

namespace Moment

/-- The moment that an instant is in universal time. -/
def ofMillis (millis : Int) : Moment :=
  let ofDay := (millis % 86400000).toNat
  { date := Date.ofDays (millis / 86400000)
    hour := ofDay / 3600000
    minute := ofDay / 60000 % 60
    second := ofDay / 1000 % 60
    millisecond := ofDay % 1000 }

/-- The decimals of the second without zeros at the end. -/
def fractionDigits (m : Moment) : List Char :=
  Text.dropTrailingZeros (Text.paddedDecimal 3 m.millisecond).toList

end Moment

/-! ### Writing -/

open Text

/-- The year in at least four digits, a minus sign before the year 0 and a plus sign beyond 9999. -/
def signedYear (year : Int) : String :=
  (if year < 0 then "-" else if 9999 < year then "+" else "") ++ paddedDecimal 4 year.natAbs

/-- The readable form of an instant: date, time with an unpadded hour, decimals of the second, and
the offset zero. Instants in years of more than six digits are shown by their count of milliseconds.
-/
def instantText (millis : Int) : String :=
  let m := Moment.ofMillis millis
  if m.date.year < -999999 ∨ 999999 < m.date.year then decimal millis
  else
    let fraction := m.fractionDigits
    signedYear m.date.year ++ "-" ++ paddedDecimal 2 m.date.month ++ "-" ++
      paddedDecimal 2 m.date.day ++ " " ++ Nat.repr m.hour ++ ":" ++ paddedDecimal 2 m.minute ++
      ":" ++ paddedDecimal 2 m.second ++ "." ++
      String.ofList (if fraction.isEmpty then ['0'] else fraction) ++ " +00:00:00"

/-- The interchange form of an instant, without decimals when the second is whole. It has room for
the years up to 9999 only, and earlier instants than 1970 are not written this way either. -/
def timestampText? (millis : Int) : Option String :=
  let m := Moment.ofMillis millis
  if millis < 0 ∨ 9999 < m.date.year then none
  else
    let fraction := m.fractionDigits
    some (paddedDecimal 4 m.date.year.natAbs ++ "-" ++ paddedDecimal 2 m.date.month ++ "-" ++
      paddedDecimal 2 m.date.day ++ "T" ++ paddedDecimal 2 m.hour ++ ":" ++
      paddedDecimal 2 m.minute ++ ":" ++ paddedDecimal 2 m.second ++
      (if fraction.isEmpty then "" else "." ++ String.ofList fraction) ++ "Z")

/-! ### Reading -/

/-- A number of exactly `width` decimal digits, and what follows it. -/
def fixedNumber? (width : Nat) (cs : List Char) : Option (Nat × List Char) :=
  let digits := cs.take width
  if digits.length = width then (natOfDigits? 10 digits).map fun n => (n, cs.drop width)
  else none

/-- What follows a given character. -/
def after? (c : Char) : List Char → Option (List Char)
  | [] => none
  | d :: rest => if d = c then some rest else none

/-- The offset from universal time in minutes at the end of a text: `Z`, or a sign, hours and
minutes. -/
def offsetMinutes? (cs : List Char) : Option Int :=
  let hoursAndMinutes (cs : List Char) : Option Int := do
    let (hours, cs) ← fixedNumber? 2 cs
    let cs ← after? ':' cs
    let (minutes, cs) ← fixedNumber? 2 cs
    if cs.isEmpty && hours < 24 && minutes < 60 then some ((hours * 60 + minutes : Nat) : Int)
    else none
  match cs with
  | ['Z'] => some 0
  | ['z'] => some 0
  | '+' :: cs => hoursAndMinutes cs
  | '-' :: cs => (hoursAndMinutes cs).map (- ·)
  | _ => none

/-- The nanoseconds in the decimals of a second, and what follows the decimals; nothing may be read
where a point has no digit after it. Digits beyond the ninth are dropped. -/
def nanosecond? : List Char → Option (Nat × List Char)
  | '.' :: cs =>
    let digits := cs.takeWhile Char.isDigit
    if digits.isEmpty then none
    else (natOfDigits? 10 ((digits ++ List.replicate 8 '0').take 9)).map fun n =>
      (n, cs.dropWhile Char.isDigit)
  | cs => some (0, cs)

/-- The whole milliseconds, rounded toward zero, in seconds and nanoseconds from an instant. -/
def wholeMillis (seconds : Int) (nanoseconds : Nat) : Int :=
  Int.tdiv (seconds * 1000000000 + nanoseconds) 1000000

/-- What follows one ASCII character. -/
def afterAny? : List Char → Option (List Char)
  | [] => none
  | c :: rest => if c.toNat < 128 then some rest else none

/-- Whether the last second of a month in universal time has its end a number of seconds after the
start of 1970; a leap second can stand only there. -/
def isEndOfMonth (seconds : Int) : Bool :=
  let m := Moment.ofMillis (seconds * 1000)
  m.date.day = 1 && m.hour = 0 && m.minute = 0 && m.second = 0

/-- The instant whose interchange form is given: a date and a time of day with any ASCII character
between them, and the offset from universal time. A sixtieth second is read, as the last nanosecond
of the fifty-ninth, where a leap second can stand. What is finer than a millisecond is dropped
toward the start of 1970. -/
def ofTimestamp? (s : String) : Option Int := do
  let (year, cs) ← fixedNumber? 4 s.toList
  let cs ← after? '-' cs
  let (month, cs) ← fixedNumber? 2 cs
  let cs ← after? '-' cs
  let (day, cs) ← fixedNumber? 2 cs
  let cs ← afterAny? cs
  let (hour, cs) ← fixedNumber? 2 cs
  let cs ← after? ':' cs
  let (minute, cs) ← fixedNumber? 2 cs
  let cs ← after? ':' cs
  let (second, cs) ← fixedNumber? 2 cs
  let (nanosecond, cs) ← nanosecond? cs
  let offset ← offsetMinutes? cs
  let date : Date := ⟨year, month, day⟩
  if date.isValid && hour < 24 && minute < 60 then
    let minuteStart := date.toDays * 86400 + hour * 3600 + minute * 60 - offset * 60
    if second < 60 then some (wholeMillis (minuteStart + second) nanosecond)
    else if second = 60 && isEndOfMonth (minuteStart + 60) then
      some (wholeMillis (minuteStart + 59) 999999999)
    else none
  else none

end QueryAlgebra
