/-!
# The calendar

Dates of the proleptic Gregorian calendar and their day numbers, counted from 1 January 1970.
-/

namespace RestRecords

structure CalendarDate where
  year : Int
  month : Nat
  day : Nat
  deriving DecidableEq, Repr

namespace CalendarDate

def isLeapYear (year : Int) : Bool :=
  year % 4 == 0 && (year % 100 != 0 || year % 400 == 0)

def daysInMonth (year : Int) (month : Nat) : Nat :=
  if month = 2 then (if isLeapYear year then 29 else 28)
  else if month = 4 ∨ month = 6 ∨ month = 9 ∨ month = 11 then 30
  else 31

def isValid (d : CalendarDate) : Bool :=
  1 ≤ d.month && d.month ≤ 12 && 1 ≤ d.day && d.day ≤ daysInMonth d.year d.month

/-- The number of days from 1 January 1970; a year is taken to begin in March. -/
def dayNumber (d : CalendarDate) : Int :=
  let year := if d.month ≤ 2 then d.year - 1 else d.year
  let month : Int := if d.month ≤ 2 then d.month + 9 else d.month - 3
  365 * year + year / 4 - year / 100 + year / 400 + (153 * month + 2) / 5 + d.day - 1 - 719468

/-- The day of the week, from `1` for Monday to `7` for Sunday. -/
def weekday (d : CalendarDate) : Nat :=
  ((d.dayNumber + 3) % 7).toNat + 1

example : dayNumber ⟨1970, 1, 1⟩ = 0 ∧ weekday ⟨1970, 1, 1⟩ = 4 := by decide

end CalendarDate

end RestRecords
