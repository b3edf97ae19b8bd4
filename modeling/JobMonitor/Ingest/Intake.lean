import JobMonitor.Channel.Frame
import JobMonitor.Ingest.Options
import JobMonitor.Job.RecordReader
import JobMonitor.Registry.Basic

set_option autoImplicit false

/-! # Taking in submissions

Each frame that arrives over the channel is decoded, judged and, if it is admitted, put into the
registry. Whatever becomes of it, it is counted once and reported, and the next frame is handled
as if a bad one had not been there. Judging and registering are two steps: what is said about an admitted
submission goes by what was registered when it was judged, and what is counted goes by what it has in fact
replaced. -/

namespace JobMonitor

/-- What became of a frame. -/
inductive IngestOutcome where
  /-- The job is in the registry now. -/
  | accepted (jobId : JobId) (replaced : Bool)
  | rejected (jobId : JobId) (reason : Rejection)
  | undecodable (e : DecodeError)
  | discarded (length : Nat) (reason : DiscardReason)
deriving DecidableEq

/-- How many frames have met each end. -/
structure IngestCounts where
  /-- New jobs. -/
  accepted : Nat := 0
  /-- Replaced jobs. -/
  updated : Nat := 0
  rejected : Nat := 0
  malformed : Nat := 0
  discarded : Nat := 0
deriving DecidableEq, Repr

/-- Counts an outcome. -/
def IngestCounts.record (c : IngestCounts) : IngestOutcome → IngestCounts
  | .accepted _ false => { c with accepted := c.accepted + 1 }
  | .accepted _ true => { c with updated := c.updated + 1 }
  | .rejected .. => { c with rejected := c.rejected + 1 }
  | .undecodable _ => { c with malformed := c.malformed + 1 }
  | .discarded .. => { c with discarded := c.discarded + 1 }

/-- How many frames have been counted. -/
def IngestCounts.total (c : IngestCounts) : Nat :=
  c.accepted + c.updated + c.rejected + c.malformed + c.discarded

/-- What takes in submissions: the registry and the counts so far. -/
structure Intake where
  options : IngestOptions
  registry : Registry
  counts : IngestCounts := {}

/-- What became of a frame, what it changed, the lines that report it, and the intake after it. -/
structure Handled where
  outcome : IngestOutcome
  changes : List Change
  log : List LogLine
  intake : Intake

/-! ## Log -/

/-- The line that reports a frame that changes nothing. -/
def IngestOutcome.warning? (maxFrameBytes : Nat) : IngestOutcome → Option LogLine
  | .accepted .. => none
  | .rejected jobId reason =>
    some { level := .warn, message := "Rejected job submission: " ++ reason.message jobId
           fields := [jobId.logField] }
  | .undecodable e =>
    some { level := .warn, message := "Dropped job submission: " ++ e.message
           fields := (e.jobId?.map JobId.logField).toList }
  | .discarded length reason =>
    some { level := .warn
           message := "Discarded " ++ decimal length ++ " bytes from job channel (" ++ reason.display
             ++ ", limit " ++ decimal maxFrameBytes ++ " bytes)" }

/-- The line that reports that a submission has been admitted. -/
def Admitted.logLine (a : Admitted) : LogLine :=
  { level := .info, message := if a.replaces then "Updated job" else "Registered job"
    fields := [a.entry.jobId.logField, a.entry.pidsField, a.entry.createdAtField] }

/-! ## Handling a frame -/

/-- Counts the outcome of a frame that changes nothing. -/
def Intake.turnDown (i : Intake) (outcome : IngestOutcome) : Handled :=
  ⟨outcome, [], (outcome.warning? i.options.maxFrameBytes).toList,
    { i with counts := i.counts.record outcome }⟩

/-- Judges a submission by what is registered at the moment. -/
def Intake.judge (i : Intake) (s : Submission) (now : Instant) : Except Rejection Admitted :=
  s.admit (i.registry.table.contains s.jobId) i.options.duplicatePolicy now

/-- Puts an entry into the registry and counts it. -/
def Intake.register (i : Intake) (e : Entry) : Handled :=
  let committed := i.registry.upsert e
  let outcome := .accepted e.jobId committed.result.isSome
  ⟨outcome, committed.changes, committed.changes.map Change.logLine,
    { i with registry := committed.registry, counts := i.counts.record outcome }⟩

/-- Handles the payload of a message. -/
def Intake.ingest (i : Intake) (payload : Bytes) (now : Instant) : Handled :=
  match Submission.decode payload with
  | .error e => i.turnDown (.undecodable e)
  | .ok s =>
    match i.judge s now with
    | .error reason => i.turnDown (.rejected s.jobId reason)
    | .ok admitted =>
      let handled := i.register admitted.entry
      { handled with log := admitted.logLine :: handled.log }

/-- Handles a frame. -/
def Intake.handle (i : Intake) (frame : Frame) (now : Instant) : Handled :=
  match frame with
  | .message payload => i.ingest payload now
  | .discarded length reason => i.turnDown (.discarded length reason)

end JobMonitor
