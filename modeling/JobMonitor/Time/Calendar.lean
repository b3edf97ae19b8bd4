set_option autoImplicit false

/-! # The proleptic Gregorian calendar

Dates are counted in days from 1970-01-01. The count of a date is a closed formula; the date of
a count is found by estimating its year from the mean length of a year, which is never off by
more than one, and walking through the months. -/

namespace JobMonitor

/-- A calendar date. Months and days count from one. -/
structure Date where
  year : Int
  month : Nat
  day : Nat
deriving DecidableEq, Inhabited, Repr

/-! ## Years and months -/

/-- Every fourth year is a leap year, but of the full centuries only every fourth. -/
def isLeapYear (year : Int) : Bool :=
  year % 4 == 0 && (year % 100 != 0 || year % 400 == 0)

/-- The lengths of the months of a year. -/
def monthLengths (year : Int) : List Nat :=
  [31, if isLeapYear year then 29 else 28, 31, 30, 31, 30, 31, 31, 30, 31, 30, 31]

/-- The length of a month; zero for a month that does not exist. -/
def monthLength (year : Int) (month : Nat) : Nat :=
  if month = 0 then 0 else (monthLengths year).getD (month - 1) 0

/-- The month and the day exist. -/
def Date.isValid (d : Date) : Bool :=
  1 ≤ d.month && d.month ≤ 12 && 1 ≤ d.day && d.day ≤ monthLength d.year d.month

/-! ## Counting days -/

/-- The days from 1970-01-01 to the first day of a year. -/
def daysBeforeYear (year : Int) : Int :=
  365 * (year - 1970) + (year - 1) / 4 - (year - 1) / 100 + (year - 1) / 400 - 477

/-- The days in all of some months. -/
def totalDays (lengths : List Nat) : Nat := lengths.foldr (· + ·) 0

/-- The days from 1970-01-01 to a date. -/
def Date.dayNumber (d : Date) : Int :=
  daysBeforeYear d.year + totalDays ((monthLengths d.year).take (d.month - 1)) + d.day - 1

/-- The year in which a day lies. -/
def yearOfDay (n : Int) : Int :=
  let year := 1970 + 400 * n / 146097
  if daysBeforeYear (year + 1) ≤ n then year + 1
  else if n < daysBeforeYear year then year - 1
  else year

/-- The month and the day that a number of days after the start of a year falls on. -/
def splitDayOfYear : List Nat → (month : Nat) → (days : Nat) → Nat × Nat
  | [], month, days => (month, days + 1)
  | length :: rest, month, days =>
    if days < length then (month, days + 1) else splitDayOfYear rest (month + 1) (days - length)

/-- The date of a day. -/
def Date.ofDayNumber (n : Int) : Date :=
  let year := yearOfDay n
  let (month, day) := splitDayOfYear (monthLengths year) 1 (n - daysBeforeYear year).toNat
  ⟨year, month, day⟩

end JobMonitor
