import RankedSql.Numeral

/-!
# Instants and calendar dates

Points in time in UTC and their texts. Dates follow the Gregorian calendar, continued to all years
before and after its introduction. A leap second is the last second of its minute with a second
thousand million nanoseconds, and is shown as second 60. Texts cut the fraction of a second off
after three digits.
-/

namespace RankedSql

/-- A day of the Gregorian calendar. -/
structure Date where
  year : Int
  month : Nat
  day : Nat
  deriving DecidableEq

namespace Date

/-- The date of a day counted from 1 January 1970. Years are counted from March here, so that a leap
day is the last day of its year, of its four years, and of its four centuries. -/
def ofDay (day : Int) : Date :=
  let sinceMarch := day + 719468
  let inCycle := (sinceMarch % 146097).toNat
  let century := min (inCycle / 36524) 3
  let inCentury := inCycle - 36524 * century
  let inFourYears := inCentury % 1461
  let yearOfFour := min (inFourYears / 365) 3
  let dayOfYear := inFourYears - 365 * yearOfFour
  let monthFromMarch := (5 * dayOfYear + 2) / 153
  let marchYear :=
    400 * (sinceMarch / 146097) + (100 * century + 4 * (inCentury / 1461) + yearOfFour : Nat)
  { year := if monthFromMarch < 10 then marchYear else marchYear + 1
    month := if monthFromMarch < 10 then monthFromMarch + 3 else monthFromMarch - 9
    day := dayOfYear - (153 * monthFromMarch + 2) / 5 + 1 }

/-- Years 0 to 9999 have four digits; all others have a sign and at least four digits. -/
def yearText (year : Int) : String :=
  if 0 ≤ year ∧ year ≤ 9999 then Numeral.padded 4 year.toNat
  else (if year < 0 then "-" else "+") ++ Numeral.padded 4 year.natAbs

/-- The date as `YYYY-MM-DD`. -/
def text (date : Date) : String :=
  yearText date.year ++ "-" ++ Numeral.padded 2 date.month ++ "-" ++ Numeral.padded 2 date.day

end Date

/-- A point in time in UTC: the seconds since the start of 1970 and the nanoseconds of that second,
which run on through a leap second that follows the last second of a minute. -/
structure Instant where
  seconds : Int
  nanos : Nat
  nanos_lt : nanos < 1_000_000_000 ∨ nanos < 2_000_000_000 ∧ seconds % 60 = 59

namespace Instant

/-- The instant with the given seconds and nanoseconds, if there is such a time. -/
def ofUnix? (seconds : Int) (nanos : Nat) : Option Instant :=
  if valid : nanos < 1_000_000_000 ∨ nanos < 2_000_000_000 ∧ seconds % 60 = 59 then
    some ⟨seconds, nanos, valid⟩
  else none

/-- The date of an instant in UTC. -/
def date (instant : Instant) : Date := Date.ofDay (instant.seconds / 86400)

/-- The second shown within the minute, which is 60 in a leap second. -/
def shownSecond (instant : Instant) : Nat :=
  (instant.seconds % 60).toNat + instant.nanos / 1_000_000_000

/-- The whole milliseconds within the shown second. -/
def milliseconds (instant : Instant) : Nat := instant.nanos % 1_000_000_000 / 1_000_000

/-- The time of day as `HH:MM:SS.mmm`. -/
def clockText (instant : Instant) : String :=
  let ofDay := (instant.seconds % 86400).toNat
  Numeral.padded 2 (ofDay / 3600) ++ ":" ++ Numeral.padded 2 (ofDay / 60 % 60) ++ ":" ++
    Numeral.padded 2 instant.shownSecond ++ "." ++ Numeral.padded 3 instant.milliseconds

/-- The date alone, as a `DATE` column stores it. -/
def dateText (instant : Instant) : String := instant.date.text

/-- Date and time with a space between them, as `DATETIME` and `TIMESTAMP` columns store them. -/
def dateTimeText (instant : Instant) : String :=
  instant.date.text ++ " " ++ instant.clockText

/-- The RFC 3339 text, in UTC. -/
def rfc3339 (instant : Instant) : String :=
  instant.date.text ++ "T" ++ instant.clockText ++ "Z"

end Instant

end RankedSql
