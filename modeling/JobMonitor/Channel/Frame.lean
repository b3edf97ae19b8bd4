import JobMonitor.Number.Decimal
import JobMonitor.Text.Bytes

set_option autoImplicit false

/-! # Frames

The unit of the job channel is a line. A frame is what the reading end makes of one: the payload
of a complete line, or a note that some bytes were dropped. -/

namespace JobMonitor

/-- Why bytes were dropped. -/
inductive DiscardReason where
  /-- The line was longer than the limit. -/
  | oversized
  /-- The stream ended inside the line. -/
  | unterminated
deriving DecidableEq, Inhabited, Repr

/-- What the reading end makes of a line. -/
inductive Frame where
  /-- The line without its delimiter. -/
  | message (payload : Bytes)
  /-- So many bytes were dropped. -/
  | discarded (length : Nat) (reason : DiscardReason)
deriving DecidableEq, Repr

/-- The name of a reason in messages. -/
def DiscardReason.display : DiscardReason → String
  | .oversized => "Oversized"
  | .unterminated => "Unterminated"

/-! ## Writing -/

/-- Why a payload cannot be framed. -/
inductive FrameError where
  | containsDelimiter
  | tooLong (length limit : Nat)
deriving DecidableEq, Repr

/-- The wording of an error. -/
def FrameError.message : FrameError → String
  | .containsDelimiter => "payload contains the frame delimiter"
  | .tooLong length limit =>
    "payload of " ++ decimal length ++ " bytes exceeds the " ++ decimal limit ++ " byte frame limit"

/-- The line of a payload. A payload that holds the delimiter is refused before its length is
    looked at. -/
def encodeFrame (limit : Nat) (payload : Bytes) : Except FrameError Bytes :=
  if newline ∈ payload then .error .containsDelimiter
  else if payload.length > limit then .error (.tooLong payload.length limit)
  else .ok (payload ++ [newline])

end JobMonitor
