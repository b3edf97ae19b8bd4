import JobMonitor.Json.Printer
import JobMonitor.Time.Reading

set_option autoImplicit false

/-! # Creation times

The creation time of a job as it was submitted. A submitter sends a text or, to say that there is
no time, some number, usually `-1`. What does not name a time is kept as it came, so that it can
be reported. -/

namespace JobMonitor

/-- A submitted creation time: an instant, or a value that names none. -/
inductive CreationTime where
  | valid (t : Instant)
  | invalid (raw : Json)
deriving DecidableEq

/-- The number that stands for no time. -/
def CreationTime.unset : CreationTime := .invalid (.ofInt64 (-1))

/-- Only a text can name a time. -/
def CreationTime.ofJson : Json → CreationTime
  | .string text =>
    match readTimestamp text with
    | some t => .valid t
    | none => .invalid (.string text)
  | raw => .invalid raw

/-- The value that is sent. The fraction of a second is not. -/
def CreationTime.toJson : CreationTime → Json
  | .valid t => .string (TimeNotation.wire.write t)
  | .invalid raw => raw

/-- The text that messages show. -/
def CreationTime.display : CreationTime → String
  | .valid t => TimeNotation.wire.write t
  | .invalid raw => raw.render

/-- The time names an instant. -/
def CreationTime.isValid : CreationTime → Bool
  | .valid _ => true
  | .invalid _ => false

/-- The time as it arrives after being sent: without the fraction of a second. -/
def CreationTime.sent : CreationTime → CreationTime
  | .valid t => .valid t.wholeSecond
  | .invalid raw => .invalid raw

end JobMonitor
