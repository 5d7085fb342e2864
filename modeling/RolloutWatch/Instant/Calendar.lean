import RolloutWatch.Instant.Basic

/-!
# The calendar

Dates of the Gregorian calendar, extended backwards without end and with a year
zero, and the days between them.
-/

namespace RolloutWatch

namespace Calendar

def isLeapYear (year : Int) : Bool :=
  year % 4 == 0 && (year % 100 != 0 || year % 400 == 0)

/-- The lengths of the months of a year. -/
def monthLengths (year : Int) : List Nat :=
  [31, if isLeapYear year then 29 else 28, 31, 30, 31, 30, 31, 31, 30, 31, 30, 31]

/-- The days from the beginning of the year 1 to the beginning of this year. -/
def daysBeforeYear (year : Int) : Int :=
  let past := year - 1
  365 * past + past / 4 - past / 100 + past / 400

/-- The years that have dates. -/
def firstYear : Int := -262143
def lastYear : Int := 262142

/-- The days from the beginning of 1970 to a date, if there is such a date. -/
def daysSince1970? (year : Int) (month day : Nat) : Option Int :=
  match (monthLengths year)[month - 1]? with
  | none => none
  | some length =>
    if 1 ≤ month && 1 ≤ day && day ≤ length && firstYear ≤ year && year ≤ lastYear then
      let before : Nat := ((monthLengths year).take (month - 1)).foldl (· + ·) 0
      some (daysBeforeYear year - daysBeforeYear 1970 + (before + (day - 1) : Nat))
    else none

/-- The seconds from 1970 to the beginning of the first year, and to the end of the last. -/
def firstSecond : Int := (daysBeforeYear firstYear - daysBeforeYear 1970) * 86400
def lastSecond : Int := (daysBeforeYear (lastYear + 1) - daysBeforeYear 1970) * 86400 - 1

end Calendar

end RolloutWatch
