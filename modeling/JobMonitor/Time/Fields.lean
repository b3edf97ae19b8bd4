import JobMonitor.Time.Instant
import JobMonitor.Text.Blank

set_option autoImplicit false

/-! # The parts of a written time

Readers for the numbers, separators, fractions and offsets that written times are made of. Each
takes the characters that are left and gives what it read with the characters after it. -/

namespace JobMonitor

/-- Why a text is no time. -/
inductive TimeError where
  /-- A character that cannot stand where it stands. -/
  | invalid
  /-- The text ends too early. -/
  | tooShort
  /-- Something follows the time. -/
  | tooLong
  /-- A number or a date that does not exist. -/
  | outOfRange
  /-- A time that exists, but not in UTC. -/
  | impossible
deriving DecidableEq, Repr

/-- The wording of an error. -/
def TimeError.message : TimeError → String
  | .invalid => "input contains invalid characters"
  | .tooShort => "premature end of input"
  | .tooLong => "trailing input"
  | .outOfRange => "input is out of range"
  | .impossible => "no possible date and time matching input"

/-- What a reader of parts of a time gives. -/
abbrev TimeScan (α : Type) := Except TimeError (α × List Char)

/-! ## Numbers and separators -/

/-- The digits in front, at most so many. -/
def leadingDigits (most : Nat) (s : List Char) : List Char := (s.take most).takeWhile isDigitChar

/-- A number of at least `least` and at most `most` digits. -/
def scanNumber (least most : Nat) (s : List Char) : TimeScan Nat :=
  let digits := leadingDigits most s
  if digits.length < least then
    -- the bytes of the text decide whether it is too short
    if (String.ofList s).utf8ByteSize < least then .error .tooShort else .error .invalid
  else .ok (decimalValue digits, s.drop digits.length)

/-- A number in a range. -/
def scanBetween (least most low high : Nat) (s : List Char) : TimeScan Nat :=
  match scanNumber least most s with
  | .error e => .error e
  | .ok (n, s) => if low ≤ n ∧ n ≤ high then .ok (n, s) else .error .outOfRange

/-- Expects a character. -/
def scanChar (c : Char) : List Char → Except TimeError (List Char)
  | [] => .error .tooShort
  | d :: s => if d = c then .ok s else .error .invalid

/-- A fraction behind its point: nine digits count, and more may follow. -/
def scanFraction (s : List Char) : TimeScan Nat :=
  match scanNumber 1 9 s with
  | .error e => .error e
  | .ok (n, rest) =>
    .ok (n * Nat.pow 10 (9 - (leadingDigits 9 s).length), rest.dropWhile isDigitChar)

/-- A fraction if there is a point. -/
def scanOptionalFraction (s : List Char) : TimeScan Nat :=
  match s with
  | '.' :: s => scanFraction s
  | s => .ok (0, s)

/-! ## Offsets -/

/-- Two characters that an offset takes for digits. -/
def scanPair (s : List Char) : TimeScan (Char × Char) :=
  match s with
  | [] => .error .tooShort
  | [c] => if c.utf8Size < 2 then .error .tooShort else .error .invalid
  | c :: d :: s => .ok ((c, d), s)

/-- The sign of an offset, `true` for minus, which may also be the typographic one. -/
def scanSign : List Char → TimeScan Bool
  | [] => .error .tooShort
  | c :: s =>
    if c = '+' then .ok (false, s)
    else if c = '-' ∨ c = '\u2212' then .ok (true, s)
    else .error .invalid

/-- The hours of an offset, any two digits. -/
def scanOffsetHours (s : List Char) : TimeScan Nat :=
  match scanPair s with
  | .error e => .error e
  | .ok ((c, d), s) =>
    if isDigitChar c ∧ isDigitChar d then .ok (decimalValue [c, d], s) else .error .invalid

/-- The minutes of an offset, below sixty. -/
def scanOffsetMinutes (s : List Char) : TimeScan Nat :=
  match scanPair s with
  | .error e => .error e
  | .ok ((c, d), s) =>
    if isDigitChar c ∧ isDigitChar d then
      if c ≤ '5' then .ok (decimalValue [c, d], s) else .error .outOfRange
    else .error .invalid

/-- An offset from UTC in seconds: a `Z`, or sign, hours and minutes with a separator that the
    caller reads. -/
def scanOffset (separator : List Char → Except TimeError (List Char)) (s : List Char) :
    TimeScan Int :=
  match s with
  | 'Z' :: s => .ok (0, s)
  | 'z' :: s => .ok (0, s)
  | s =>
    match scanSign s with
    | .error e => .error e
    | .ok (isNegative, s) =>
      match scanOffsetHours s with
      | .error e => .error e
      | .ok (hours, s) =>
        match separator s with
        | .error e => .error e
        | .ok s =>
          match scanOffsetMinutes s with
          | .error e => .error e
          | .ok (minutes, s) =>
            let seconds : Int := hours * 3600 + minutes * 60
            .ok (if isNegative then -seconds else seconds, s)

/-! ## Putting the parts together -/

/-- Date and clock as written, the date not yet checked against the calendar. -/
structure LocalTime where
  year : Int
  month : Nat
  day : Nat
  hour : Nat
  minute : Nat
  second : Nat
  nanos : Nat
deriving DecidableEq, Inhabited, Repr

/-- The date of a written time. -/
def LocalTime.date (t : LocalTime) : Date := ⟨t.year, t.month, t.day⟩

/-- The second that a written time names. The sixtieth second has the count of the one before
    it. -/
def LocalTime.seconds (t : LocalTime) : Int :=
  t.date.dayNumber * 86400 + t.hour * 3600 + t.minute * 60 + min t.second 59

/-- The nanoseconds of a written time, a billion more in the sixtieth second. -/
def LocalTime.nanoseconds (t : LocalTime) : Nat :=
  t.nanos + if t.second = 60 then 1_000_000_000 else 0

/-- The instant that a written time names at an offset from UTC. -/
def LocalTime.instant (t : LocalTime) (offset : Int) : Except TimeError Instant :=
  if minYear ≤ t.year ∧ t.year ≤ maxYear ∧ t.date.isValid then
    if offset.natAbs < 86400 then
      match Instant.of? (t.seconds - offset) t.nanoseconds with
      | some i => .ok i
      | none => .error .impossible
    else .error .outOfRange
  else .error .outOfRange

end JobMonitor
