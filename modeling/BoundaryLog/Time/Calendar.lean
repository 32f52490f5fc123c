/-! # The Gregorian calendar

Dates of the proleptic Gregorian calendar and the number of days from 1 January of year 0.  In
both directions a year is placed by the number of days before it, and a month by the lengths of
the months before it. -/
set_option autoImplicit false
namespace BoundaryLog

/-- Whether a year has 366 days. -/
def isLeapYear (year : Int) : Bool := year % 4 == 0 && (year % 100 != 0 || year % 400 == 0)

/-- The days from the beginning of year 0 to the beginning of a year. -/
def daysBeforeYear (year : Int) : Int :=
  365 * year + (year + 3) / 4 - (year + 99) / 100 + (year + 399) / 400

def monthLengths (leap : Bool) : List Nat :=
  [31, if leap then 29 else 28, 31, 30, 31, 30, 31, 31, 30, 31, 30, 31]

def daysIn : List Nat → Nat
  | [] => 0
  | length :: rest => length + daysIn rest

/-- A day named by year, month and day of the month, the latter two from 1. -/
structure Date where
  year : Int
  month : Nat
  day : Nat
  deriving DecidableEq

namespace Date

/-- Whether the calendar has such a day. -/
def Valid (d : Date) : Prop :=
  1 ≤ d.month ∧ d.month ≤ 12 ∧ 1 ≤ d.day ∧
    d.day ≤ (monthLengths (isLeapYear d.year)).getD (d.month - 1) 0

instance (d : Date) : Decidable d.Valid := by unfold Valid; infer_instance

/-- The days from the beginning of year 0 to a date. -/
def dayNumber (d : Date) : Int :=
  daysBeforeYear d.year + daysIn ((monthLengths (isLeapYear d.year)).take (d.month - 1)) +
    (d.day - 1 : Nat)

end Date

/-- The year that a day falls into.  The mean length of a year gives it up to one. -/
def yearOfDay (day : Int) : Int :=
  let guess := day * 400 / 146097
  if day < daysBeforeYear guess then guess - 1
  else if daysBeforeYear (guess + 1) ≤ day then guess + 1
  else guess

/-- How many of the months have passed after the given days, and the days since then. -/
def splitMonths : List Nat → Nat → Nat × Nat
  | [], day => (0, day)
  | length :: rest, day =>
      if day < length then (0, day)
      else
        let (months, left) := splitMonths rest (day - length)
        (months + 1, left)

/-- The date of a day counted from the beginning of year 0. -/
def Date.ofDayNumber (day : Int) : Date :=
  let year := yearOfDay day
  let dayOfYear := (day - daysBeforeYear year).toNat
  let (months, left) := splitMonths (monthLengths (isLeapYear year)) dayOfYear
  ⟨year, months + 1, left + 1⟩

/-- The year found for a day is the one whose days include it. -/
theorem yearOfDay_bounds (day : Int) :
    daysBeforeYear (yearOfDay day) ≤ day ∧ day < daysBeforeYear (yearOfDay day + 1) := by
  unfold yearOfDay
  dsimp only
  split
  · next hBefore =>
      rw [Int.sub_add_cancel]
      refine ⟨?_, hBefore⟩
      unfold daysBeforeYear
      omega
  · next hFrom =>
      split
      · next hAfter =>
          refine ⟨hAfter, ?_⟩
          unfold daysBeforeYear
          omega
      · next hUntil => exact ⟨Int.not_lt.1 hFrom, Int.not_le.1 hUntil⟩

end BoundaryLog
