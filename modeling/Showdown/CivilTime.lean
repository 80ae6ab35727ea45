/-!
# Calendar and clock

The fields of the Gregorian calendar, extended to all years, and of the clock, with a fraction
down to the nanosecond. A minute may have a leap second, written as second 60.

Nothing is computed with them except that a local time is brought to universal time, which moves
it by less than a day.
-/

namespace Showdown

/-- A date and a time of day, in no particular zone; the numbers may name no date or time. -/
structure CivilTime where
  /-- The year; the year before 1 is 0. -/
  year : Int
  /-- The month, from 1. -/
  month : Nat
  /-- The day of the month, from 1. -/
  day : Nat
  /-- The hour, from 0. -/
  hour : Nat
  /-- The minute, from 0. -/
  minute : Nat
  /-- The second, from 0; 60 is a leap second. -/
  second : Nat
  /-- The nanoseconds past the second. -/
  nanosecond : Nat
  deriving DecidableEq

namespace CivilTime

/-- The year has a 29 February. -/
def isLeapYear (year : Int) : Bool :=
  year % 4 == 0 && (year % 100 != 0 || year % 400 == 0)

/-- The number of days of a month, 0 for a number that names no month. -/
def daysInMonth (year : Int) : Nat → Nat
  | 1 | 3 | 5 | 7 | 8 | 10 | 12 => 31
  | 4 | 6 | 9 | 11 => 30
  | 2 => if isLeapYear year then 29 else 28
  | _ => 0

/-- The first year of the calendar. -/
def firstYear : Int := -262143

/-- The last year of the calendar. -/
def lastYear : Int := 262142

/-- The fields name a date and a time of the calendar. -/
def isValid (t : CivilTime) : Bool :=
  firstYear ≤ t.year && t.year ≤ lastYear && 1 ≤ t.day && t.day ≤ daysInMonth t.year t.month &&
    t.hour < 24 && t.minute < 60 && t.second ≤ 60 && t.nanosecond < 1000000000

/-- The same time on the day before. -/
def dayBefore (t : CivilTime) : CivilTime :=
  if 1 < t.day then { t with day := t.day - 1 }
  else if 1 < t.month then
    { t with month := t.month - 1, day := daysInMonth t.year (t.month - 1) }
  else { t with year := t.year - 1, month := 12, day := 31 }

/-- The same time on the day after. -/
def dayAfter (t : CivilTime) : CivilTime :=
  if t.day < daysInMonth t.year t.month then { t with day := t.day + 1 }
  else if t.month < 12 then { t with month := t.month + 1, day := 1 }
  else { t with year := t.year + 1, month := 1, day := 1 }

/-- What a clock in universal time shows when one that runs `offset` minutes ahead shows `t`. -/
def toUniversal (t : CivilTime) (offset : Int) : CivilTime :=
  let minutes : Int := t.hour * 60 + t.minute - offset
  let rest := (minutes % 1440).toNat
  let t' := { t with hour := rest / 60, minute := rest % 60 }
  if minutes < 0 then t'.dayBefore
  else if 1440 ≤ minutes then t'.dayAfter
  else t'

end CivilTime

end Showdown
