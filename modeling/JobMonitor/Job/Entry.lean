import JobMonitor.Job.Submission

set_option autoImplicit false

/-! # Entries and changes

An entry is a job that the monitor watches. A change tells what happened to one: it was added,
updated or removed. -/

namespace JobMonitor

/-- Processes are told apart by a number of 32 bits. -/
abbrev Pid := Int32

/-- A watched job. -/
structure Entry where
  jobId : JobId
  pids : List Pid
  createdAt : Instant
  /-- When the monitor took it in. -/
  ingestedAt : Instant
deriving DecidableEq, Inhabited

/-- What happened to an entry. -/
inductive ChangeKind where
  | added
  | updated
  | removed
deriving DecidableEq, Inhabited, Repr

/-- A change of an entry. Of a removal it holds the entry that was there. -/
structure Change where
  kind : ChangeKind
  entry : Entry
deriving DecidableEq, Inhabited

/-! ## Writing -/

/-- The name of a kind of change. -/
def ChangeKind.name : ChangeKind → String
  | .added => "added"
  | .updated => "updated"
  | .removed => "removed"

/-- The kinds in the order in which messages list them. -/
def ChangeKind.all : List ChangeKind := [.added, .updated, .removed]

/-- The text of a change in messages. -/
def Change.display (c : Change) : String :=
  "job " ++ signedDecimal c.entry.jobId.toInt ++ " " ++ c.kind.name

/-- The JSON text of an instant, in the exchange format. -/
def Instant.toJson (t : Instant) : Json := .string (TimeNotation.exchange.write t)

/-- The JSON number of a process id. -/
def Json.ofPid (pid : Pid) : Json :=
  .number (.integer ⟨pid.toInt, by have := pid.le_toInt; have := pid.toInt_lt; omega⟩)

/-- The members of an entry. -/
def Entry.members (e : Entry) : List (String × Json) :=
  [("job_id", .ofInt64 e.jobId), ("pids", .array (e.pids.map Json.ofPid)),
    ("created_at", e.createdAt.toJson), ("ingested_at", e.ingestedAt.toJson)]

/-- The JSON object of an entry, its members in the order of the fields. -/
def Entry.toJson (e : Entry) : Json := .object e.members

/-- The members of a change. -/
def Change.members (c : Change) : List (String × Json) :=
  [("event", .string c.kind.name), ("job", c.entry.toJson)]

/-- The JSON object of a change. -/
def Change.toJson (c : Change) : Json := .object c.members

/-- The text that messages show for a list of processes. -/
def displayPids (pids : List Pid) : String :=
  "[" ++ ", ".intercalate (pids.map fun p => signedDecimal p.toInt) ++ "]"

end JobMonitor
