import JobMonitor.Time.Fields

set_option autoImplicit false

/-! # Reading times

A submitted time may be written in one of three ways: the exchange format with its offset, or
date and clock without an offset, taken as UTC, with a blank or a `T` between them. The first has
fields of fixed width; the other two take short numbers, signed years and blanks in front of
every number. Entries and events are read by a fourth, more relaxed form of the exchange format. -/

namespace JobMonitor

/-! ## The exchange format -/

/-- Two digits in a range. -/
def scanTwo (low high : Nat) (s : List Char) : TimeScan Nat := scanBetween 2 2 low high s

/-- What may stand between date and clock. -/
def scanDateEnd : List Char → Except TimeError (List Char)
  | [] => .error .tooShort
  | c :: s => if c = 'T' ∨ c = 't' ∨ c = ' ' then .ok s else .error .invalid

/-- Date, clock and offset with every field at its full width. -/
def scanExchange (s : List Char) : Except TimeError ((LocalTime × Int) × List Char) := do
  let (year, s) ← scanNumber 4 4 s
  let s ← scanChar '-' s
  let (month, s) ← scanTwo 1 12 s
  let s ← scanChar '-' s
  let (day, s) ← scanTwo 1 31 s
  let s ← scanDateEnd s
  let (hour, s) ← scanTwo 0 23 s
  let s ← scanChar ':' s
  let (minute, s) ← scanTwo 0 59 s
  let s ← scanChar ':' s
  let (second, s) ← scanTwo 0 60 s
  let (nanos, s) ← scanOptionalFraction s
  let (offset, s) ← scanOffset (scanChar ':') s
  return ((⟨year, month, day, hour, minute, second, nanos⟩, offset), s)

/-- Nothing may follow a time. -/
def scanEnd (s : List Char) : Except TimeError Unit :=
  if s.isEmpty then .ok () else .error .tooLong

/-- The exchange format. -/
def readExchange (s : List Char) : Except TimeError Instant := do
  let ((time, offset), s) ← scanExchange s
  scanEnd s
  time.instant offset

/-! ## Lenient fields -/

/-- One or two digits in a range, behind any blanks. -/
def scanLenient (low high : Nat) (s : List Char) : TimeScan Nat :=
  scanBetween 1 2 low high (trimFront s)

/-- The greatest number that the digits of a signed year may make. -/
def maxYearNumber : Nat := 2_147_483_647

/-- A year behind any blanks: up to four digits, or any number of them behind a sign. -/
def scanYear (s : List Char) : TimeScan Int :=
  match trimFront s with
  | '-' :: s =>
    match scanNumber 1 s.length s with
    | .error e => .error e
    | .ok (n, s) => if n ≤ maxYearNumber + 1 then .ok (-(n : Int), s) else .error .outOfRange
  | '+' :: s =>
    match scanNumber 1 s.length s with
    | .error e => .error e
    | .ok (n, s) => if n ≤ maxYearNumber then .ok ((n : Int), s) else .error .outOfRange
  | s =>
    match scanNumber 1 4 s with
    | .error e => .error e
    | .ok (n, s) => .ok ((n : Int), s)

/-! ## Date and clock without an offset -/

/-- Date and clock with lenient fields. -/
def scanNaive (separator : List Char → Except TimeError (List Char)) (s : List Char) :
    Except TimeError (LocalTime × List Char) := do
  let (year, s) ← scanYear s
  let s ← scanChar '-' s
  let (month, s) ← scanLenient 1 12 s
  let s ← scanChar '-' s
  let (day, s) ← scanLenient 1 31 s
  let s ← separator s
  let (hour, s) ← scanLenient 0 23 s
  let s ← scanChar ':' s
  let (minute, s) ← scanLenient 0 59 s
  let s ← scanChar ':' s
  let (second, s) ← scanLenient 0 60 s
  let (nanos, s) ← scanOptionalFraction s
  return (⟨year, month, day, hour, minute, second, nanos⟩, s)

/-- Date and clock as a time in UTC. -/
def readNaive (separator : List Char → Except TimeError (List Char)) (s : List Char) :
    Except TimeError Instant := do
  let (time, s) ← scanNaive separator s
  scanEnd s
  time.instant 0

/-- Blanks between date and clock, or none. -/
def readNaiveBlank (s : List Char) : Except TimeError Instant :=
  readNaive (fun s => .ok (trimFront s)) s

/-- A `T` between date and clock. -/
def readNaiveT (s : List Char) : Except TimeError Instant := readNaive (scanChar 'T') s

/-! ## Submitted times -/

/-- The readings of a submitted time, in the order in which they are tried. -/
def timeReadings : List (List Char → Except TimeError Instant) :=
  [readExchange, readNaiveBlank, readNaiveT]

/-- The time that a submission names: the first reading that succeeds on the text without the
    blanks around it. -/
def readTimestamp (text : String) : Option Instant :=
  timeReadings.findSome? fun read => (read (trim text.toList)).toOption

/-! ## Times of entries and events -/

/-- The offset of the relaxed form: also the name `UTC` in any case, and any colons and blanks
    between hours and minutes. -/
def scanRelaxedOffset (s : List Char) : TimeScan Int :=
  match s with
  | u :: t :: c :: rest =>
    if [u, t, c].map Char.toUpper = ['U', 'T', 'C'] then .ok (0, rest)
    else scanOffset (fun s => .ok (s.dropWhile fun c => c == ':' || isBlankChar c)) s
  | s => scanOffset (fun s => .ok (s.dropWhile fun c => c == ':' || isBlankChar c)) s

/-- Date, clock and offset with lenient fields, and blanks in front of every separator. -/
def scanRelaxed (s : List Char) : Except TimeError ((LocalTime × Int) × List Char) := do
  let (year, s) ← scanYear s
  let s ← scanChar '-' (trimFront s)
  let (month, s) ← scanLenient 1 12 s
  let s ← scanChar '-' (trimFront s)
  let (day, s) ← scanLenient 1 31 s
  let s ← scanDateEnd s
  let (hour, s) ← scanLenient 0 23 s
  let s ← scanChar ':' (trimFront s)
  let (minute, s) ← scanLenient 0 59 s
  let s ← scanChar ':' (trimFront s)
  let (second, s) ← scanLenient 0 60 s
  let (nanos, s) ← scanOptionalFraction s
  let (offset, s) ← scanRelaxedOffset (trimFront s)
  return ((⟨year, month, day, hour, minute, second, nanos⟩, offset), s)

/-- The time of an entry. -/
def readEntryTime (text : String) : Except TimeError Instant := do
  let ((time, offset), s) ← scanRelaxed text.toList
  scanEnd (trimFront s)
  time.instant offset

end JobMonitor
