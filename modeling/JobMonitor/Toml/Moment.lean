import JobMonitor.Number.Decimal
import JobMonitor.Time.Calendar
import JobMonitor.Text.Pieces

set_option autoImplicit false

/-! # Dates and times of TOML

They are read and written again in one form. -/

namespace JobMonitor.Toml

/-- A number of exactly so many digits between two bounds. -/
def fixedNumber? (width low high : Nat) (digits : List Char) : Option Nat :=
  if digits.length = width then (natural? digits).filter fun n => low ≤ n && n ≤ high else none

/-- A number filled up with zeros. -/
def padded (width n : Nat) : String := String.ofList (paddedDigits width n)

/-- How many days a month has. -/
def monthLength (year month : Nat) : Nat :=
  if month = 2 then
    if year % 4 = 0 ∧ (year % 100 ≠ 0 ∨ year % 400 = 0) then 29 else 28
  else if month = 4 ∨ month = 6 ∨ month = 9 ∨ month = 11 then 30
  else 31

/-- A date. -/
def date? (text : List Char) : Option String := do
  match splitChars '-' text with
  | [year, month, day] =>
    let year ← fixedNumber? 4 0 9999 year
    let month ← fixedNumber? 2 1 12 month
    let day ← fixedNumber? 2 1 (monthLength year month) day
    return padded 4 year ++ "-" ++ padded 2 month ++ "-" ++ padded 2 day
  | _ => none

/-- The fraction of a second behind its point, nine digits of which count. Zeros at the end are left
    out, but one digit is kept. -/
def fraction? (digits : List Char) : Option String :=
  if digits.isEmpty ∨ ¬ digits.all isDigitChar then none
  else
    let kept := ((digits.take 9).reverse.dropWhile (· = '0')).reverse
    some (if kept.isEmpty then ".0" else "." ++ String.ofList kept)

/-- A second, which may have a fraction. -/
def second? (text : List Char) : Option String := do
  let whole ← fixedNumber? 2 0 60 (text.take 2)
  let fraction ← match text.drop 2 with
    | [] => some ""
    | '.' :: digits => fraction? digits
    | _ => none
  return padded 2 whole ++ fraction

/-- A time of day, with or without seconds. -/
def clock? (text : List Char) : Option String := do
  match splitChars ':' text with
  | hour :: minute :: seconds =>
    let hour ← fixedNumber? 2 0 23 hour
    let minute ← fixedNumber? 2 0 59 minute
    let second ← match seconds with
      | [] => some ""
      | [second] => (second? second).map (":" ++ ·)
      | _ => none
    return padded 2 hour ++ ":" ++ padded 2 minute ++ second
  | _ => none

/-- An offset from the universal time. -/
def offset? (sign : Char) (text : List Char) : Option String := do
  match splitChars ':' text with
  | [hour, minute] =>
    let hour ← fixedNumber? 2 0 23 hour
    let minute ← fixedNumber? 2 0 59 minute
    let sign := if sign = '-' ∧ (hour ≠ 0 ∨ minute ≠ 0) then "-" else "+"
    return sign ++ padded 2 hour ++ ":" ++ padded 2 minute
  | _ => none

/-- A time of day that may have an offset. -/
def offsetClock? (text : List Char) : Option String :=
  let isClock (c : Char) : Bool := isDigitChar c || c = ':' || c = '.'
  let clock := clock? (text.takeWhile isClock)
  match text.dropWhile isClock with
  | [] => clock
  | c :: rest =>
    let offset := if (c = 'Z' ∨ c = 'z') ∧ rest.isEmpty then some "Z"
      else if c = '+' ∨ c = '-' then offset? c rest
      else none
    (clock.bind fun clock => offset.map (clock ++ ·))

/-- A date, a time of day or both. -/
def moment? (text : List Char) : Option String :=
  let day := text.take 10
  match date? day, text.drop 10 with
  | some date, [] => some date
  | some date, c :: rest =>
    if c = 'T' ∨ c = 't' ∨ c = ' ' then (offsetClock? rest).map (date ++ "T" ++ ·) else none
  | none, _ => clock? text

end JobMonitor.Toml
