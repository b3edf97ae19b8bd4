import JobMonitor.Time.Calendar
import JobMonitor.Number.Decimal

set_option autoImplicit false

/-! # Instants

An instant is a second since 1970-01-01 00:00:00 UTC with its nanoseconds. A leap second is kept
as the last second of a minute with a billion nanoseconds or more, so it has the count of the
second before it. Years run from -262143 to 262142. -/

namespace JobMonitor

/-- The years that an instant may lie in. -/
def minYear : Int := -262143

@[inherit_doc minYear]
def maxYear : Int := 262142

/-- The first second of the years that an instant may lie in. -/
def minSecond : Int := daysBeforeYear minYear * 86400

/-- The last second of the years that an instant may lie in. -/
def maxSecond : Int := daysBeforeYear (maxYear + 1) * 86400 - 1

/-- A point in time. -/
structure Instant where
  /-- Seconds since 1970-01-01 00:00:00 UTC. -/
  second : Int
  /-- Nanoseconds of the second; a billion or more in a leap second. -/
  nanos : Nat
  second_range : minSecond ≤ second ∧ second ≤ maxSecond
  nanos_range : nanos < 1_000_000_000 ∨ nanos < 2_000_000_000 ∧ second % 60 = 59
deriving DecidableEq

/-- The instant with these parts, if there is one. -/
def Instant.of? (second : Int) (nanos : Nat) : Option Instant :=
  if h : (minSecond ≤ second ∧ second ≤ maxSecond) ∧
      (nanos < 1_000_000_000 ∨ nanos < 2_000_000_000 ∧ second % 60 = 59) then
    some ⟨second, nanos, h.1, h.2⟩
  else none

/-- The start of 1970. -/
def Instant.epoch : Instant :=
  ⟨0, 0, by decide, by decide⟩

instance : Inhabited Instant := ⟨Instant.epoch⟩

/-! ## Parts -/

/-- A second that a minute has only once in a while. -/
def Instant.isLeap (t : Instant) : Bool := t.nanos ≥ 1_000_000_000

/-- The date in UTC. -/
def Instant.date (t : Instant) : Date := Date.ofDayNumber (t.second / 86400)

/-- Seconds since midnight, not counting a leap second. -/
def Instant.secondOfDay (t : Instant) : Nat := (t.second % 86400).toNat

/-- The nanoseconds that a clock shows. -/
def Instant.fraction (t : Instant) : Nat := t.nanos % 1_000_000_000

/-- The same second without its fraction. A leap second stays one. -/
def Instant.wholeSecond (t : Instant) : Instant where
  second := t.second
  nanos := if t.isLeap then 1_000_000_000 else 0
  second_range := t.second_range
  nanos_range := by
    by_cases h : t.nanos ≥ 1_000_000_000
    · have := t.nanos_range
      simp only [Instant.isLeap, decide_eq_true h, ↓reduceIte]
      omega
    · simp only [Instant.isLeap, decide_eq_false h, Bool.false_eq_true, ↓reduceIte]
      omega

/-! ## Text -/

/-- How an instant is spelled. -/
structure TimeNotation where
  separator : Char
  /-- Show the fraction, with three, six or nine digits, if it is not zero. -/
  showsFraction : Bool
  suffix : List Char

/-- The exchange format: a `T` between date and time, the fraction, and a `Z` for UTC. -/
def TimeNotation.exchange : TimeNotation := ⟨'T', true, ['Z']⟩

/-- The format of messages. -/
def TimeNotation.display : TimeNotation := ⟨' ', true, [' ', 'U', 'T', 'C']⟩

/-- The format of submissions, which has no fraction and does not name UTC. -/
def TimeNotation.wire : TimeNotation := ⟨' ', false, []⟩

/-- The pattern that describes a format to other programs. -/
def TimeNotation.pattern (n : TimeNotation) : String :=
  "%Y-%m-%d" ++ String.ofList [n.separator] ++ "%H:%M:%S" ++ (if n.showsFraction then "%.f" else "")
    ++ String.ofList n.suffix

/-- A year has at least four digits, and a sign if it is not one of 0 to 9999. -/
def yearChars (year : Int) : List Char :=
  if year < 0 then '-' :: paddedDigits 4 year.natAbs
  else if year ≤ 9999 then paddedDigits 4 year.toNat
  else '+' :: paddedDigits 4 year.toNat

/-- Year, month and day. -/
def Date.chars (d : Date) : List Char :=
  yearChars d.year ++ '-' :: paddedDigits 2 d.month ++ '-' :: paddedDigits 2 d.day

/-- Hour, minute and second; a leap second is the sixtieth. -/
def Instant.clockChars (t : Instant) : List Char :=
  let s := t.secondOfDay
  paddedDigits 2 (s / 3600) ++ ':' :: paddedDigits 2 (s / 60 % 60)
    ++ ':' :: paddedDigits 2 (s % 60 + if t.isLeap then 1 else 0)

/-- The fraction behind its point, with the fewest of three, six and nine digits that are
    exact; nothing if it is zero. -/
def fractionChars (nanos : Nat) : List Char :=
  if nanos = 0 then []
  else if nanos % 1_000_000 = 0 then '.' :: paddedDigits 3 (nanos / 1_000_000)
  else if nanos % 1_000 = 0 then '.' :: paddedDigits 6 (nanos / 1_000)
  else '.' :: paddedDigits 9 nanos

/-- The text of an instant in a notation. -/
def TimeNotation.chars (f : TimeNotation) (t : Instant) : List Char :=
  t.date.chars ++ f.separator :: t.clockChars
    ++ (if f.showsFraction then fractionChars t.fraction else []) ++ f.suffix

/-- The text of an instant in a notation. -/
def TimeNotation.write (f : TimeNotation) (t : Instant) : String := String.ofList (f.chars t)

end JobMonitor
