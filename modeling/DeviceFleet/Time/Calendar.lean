/-
# The calendar

Dates of the Gregorian calendar, extended to all years, and the count of days that belongs to
each.  Day 0 is the first of January of the year 1.
-/

namespace DeviceFleet.Calendar

/-- Does the year have a 29th of February? -/
def isLeapYear (year : Int) : Bool :=
  year % 4 == 0 && (year % 100 != 0 || year % 400 == 0)

/-- The number of days before the year. -/
def daysBeforeYear (year : Int) : Int :=
  365 * (year - 1) + (year - 1) / 4 - (year - 1) / 100 + (year - 1) / 400

/-- The lengths of the twelve months. -/
def monthLengths (leap : Bool) : List Nat :=
  [31, if leap then 29 else 28, 31, 30, 31, 30, 31, 31, 30, 31, 30, 31]

/-- The year that a day lies in.  The mean length of a year gives it, or the year before it. -/
def yearOf (day : Int) : Int :=
  let year := 400 * day / 146097 + 1
  if daysBeforeYear (year + 1) ≤ day then year + 1 else year

/-- Splits a day of a year, counted from 0, into a month and a day of the month, both counted
from 1. -/
def splitMonths : List Nat → Nat → Nat × Nat
  | [], day => (1, day + 1)
  | length :: lengths, day =>
    if day < length then (1, day + 1)
    else
      let (month, rest) := splitMonths lengths (day - length)
      (month + 1, rest)

/-- A date. -/
structure Date where
  /-- The year; 0 is the year before the year 1. -/
  year : Int
  /-- The month, from 1 to 12. -/
  month : Nat
  /-- The day of the month, from 1. -/
  day : Nat
deriving DecidableEq, Repr

/-- Does the calendar have the date? -/
def Date.isValid (d : Date) : Bool :=
  match (monthLengths (isLeapYear d.year))[d.month - 1]? with
  | some length => 1 ≤ d.month && 1 ≤ d.day && d.day ≤ length
  | none => false

/-- The number of a date. -/
def Date.toDay (d : Date) : Int :=
  let before : Nat := ((monthLengths (isLeapYear d.year)).take (d.month - 1)).foldl Nat.add 0
  daysBeforeYear d.year + before + d.day - 1

/-- The date with a number. -/
def Date.ofDay (day : Int) : Date :=
  let year := yearOf day
  let (month, dayOfMonth) :=
    splitMonths (monthLengths (isLeapYear year)) (day - daysBeforeYear year).toNat
  ⟨year, month, dayOfMonth⟩

end DeviceFleet.Calendar
