import JobMonitor.Files.Error
import JobMonitor.Files.Path

set_option autoImplicit false

/-! # Channel errors

Why a job channel cannot be used. -/

namespace JobMonitor

/-- Why a channel cannot be used. -/
inductive ChannelError where
  /-- It does not exist, nobody reads it, or it cannot be opened. -/
  | unavailable (path : Path) (cause : OsError)
  /-- Something else has its name. -/
  | notAFifo (path : Path)
  /-- Reading from it failed. -/
  | readFailed (path : Path) (cause : OsError)
deriving DecidableEq, Repr

/-- The wording of an error. -/
def ChannelError.message : ChannelError → String
  | .unavailable path cause => "job channel " ++ path ++ " is unavailable: " ++ cause.message
  | .notAFifo path => path ++ " exists but is not a FIFO"
  | .readFailed path cause => "failed to read from job channel " ++ path ++ ": " ++ cause.message

/-- What the operating system said. -/
def ChannelError.cause? : ChannelError → Option OsError
  | .unavailable _ cause | .readFailed _ cause => some cause
  | .notAFifo _ => none

/-- There is no channel to work with. -/
def ChannelError.isUnavailable : ChannelError → Bool
  | .unavailable .. | .notAFifo _ => true
  | .readFailed .. => false

end JobMonitor
