import JobMonitor.Channel.Client
import JobMonitor.Job.Admission

set_option autoImplicit false

/-! # Options of the intake -/

namespace JobMonitor

/-- How the monitor takes in submissions. -/
structure IngestOptions where
  /-- The longest line that is a submission. It cannot be set to more than fits into one write
      unless the submitters know better. -/
  maxFrameBytes : Nat := maxPayloadBytes
  duplicatePolicy : DuplicatePolicy := .reject
  /-- How long to wait before the channel is opened again after it failed, in milliseconds. -/
  reopenDelayMs : Nat := 100
deriving DecidableEq, Repr

end JobMonitor
