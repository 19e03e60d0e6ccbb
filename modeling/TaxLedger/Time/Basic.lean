import TaxLedger.Text.Integer

/-!
# Points in time

A point in time in UTC, its calendar date in the proleptic Gregorian calendar, and its text.
-/

namespace TaxLedger

/-- Seconds since the start of 1970 in UTC and nanoseconds of the second. In a leap second the seconds
are those of the second before and the nanoseconds count on from `10 ^ 9`. -/
structure Timestamp where
  seconds : Int
  nanos : Nat := 0
  deriving DecidableEq, Repr, Inhabited

structure CalendarDay where
  year : Int
  month : Nat
  day : Nat
  deriving DecidableEq, Repr, Inhabited

namespace CalendarDay

def isLeapYear (year : Int) : Bool := year % 4 == 0 && (year % 100 != 0 || year % 400 == 0)

def daysInMonth (year : Int) (month : Nat) : Nat :=
  if month = 2 then if isLeapYear year then 29 else 28
  else if month = 4 || month = 6 || month = 9 || month = 11 then 30
  else 31

def isValid (d : CalendarDay) : Bool :=
  1 ≤ d.month && d.month ≤ 12 && 1 ≤ d.day && d.day ≤ daysInMonth d.year d.month

/-- Days from the first of January 1970. Years are counted from March, so that a leap day is the last
day of its year. -/
def toDays (d : CalendarDay) : Int :=
  let year : Int := if d.month ≤ 2 then d.year - 1 else d.year
  let era := year.fdiv 400
  let yearOfEra := year - era * 400
  let monthFromMarch : Int := ((d.month + 9) % 12 : Nat)
  let dayOfYear := (153 * monthFromMarch + 2) / 5 + d.day - 1
  let dayOfEra := yearOfEra * 365 + yearOfEra / 4 - yearOfEra / 100 + dayOfYear
  era * 146097 + dayOfEra - 719468

def ofDays (days : Int) : CalendarDay :=
  let shifted := days + 719468
  let era := shifted.fdiv 146097
  let dayOfEra := (shifted - era * 146097).toNat
  let yearOfEra := (dayOfEra - dayOfEra / 1460 + dayOfEra / 36524 - dayOfEra / 146096) / 365
  let dayOfYear := dayOfEra - (365 * yearOfEra + yearOfEra / 4 - yearOfEra / 100)
  let monthFromMarch := (5 * dayOfYear + 2) / 153
  let day := dayOfYear - (153 * monthFromMarch + 2) / 5 + 1
  let month := if monthFromMarch < 10 then monthFromMarch + 3 else monthFromMarch - 9
  let year := (yearOfEra : Int) + era * 400
  ⟨if month ≤ 2 then year + 1 else year, month, day⟩

/-- Year, month and day with hyphens between them. A year of more than four digits has a sign. -/
def render (d : CalendarDay) : String :=
  let year :=
    if 0 ≤ d.year && d.year ≤ 9999 then Text.padNat 4 d.year.toNat
    else (if d.year < 0 then "-" else "+") ++ Text.padNat 4 d.year.natAbs
  year ++ "-" ++ Text.padNat 2 d.month ++ "-" ++ Text.padNat 2 d.day

end CalendarDay

namespace Timestamp

def nanosPerSecond : Nat := 1000000000

/-- The fraction of a second in the fewest of three, six or nine digits that hold it. -/
def renderFraction (nanos : Nat) : String :=
  if nanos = 0 then ""
  else if nanos % 1000000 = 0 then "." ++ Text.padNat 3 (nanos / 1000000)
  else if nanos % 1000 = 0 then "." ++ Text.padNat 6 (nanos / 1000)
  else "." ++ Text.padNat 9 nanos

def day (t : Timestamp) : CalendarDay := CalendarDay.ofDays (t.seconds.fdiv 86400)

def renderClock (t : Timestamp) : String :=
  let inDay := (t.seconds - t.seconds.fdiv 86400 * 86400).toNat
  let leap := if nanosPerSecond ≤ t.nanos then 1 else 0
  Text.padNat 2 (inDay / 3600) ++ ":" ++ Text.padNat 2 (inDay / 60 % 60) ++ ":" ++
    Text.padNat 2 (inDay % 60 + leap) ++ renderFraction (t.nanos % nanosPerSecond)

def render (t : Timestamp) : String := t.day.render ++ "T" ++ t.renderClock

instance : ToString Timestamp := ⟨render⟩

def notAfter (a b : Timestamp) : Bool :=
  a.seconds < b.seconds || (a.seconds == b.seconds && a.nanos ≤ b.nanos)

end Timestamp

end TaxLedger
