import JobMonitor.Job.Entry
import JobMonitor.Log.Line

set_option autoImplicit false

/-! # Jobs in the log

How jobs and their changes are shown in log lines. -/

namespace JobMonitor

/-- The id of a job as a named value. -/
def JobId.logField (id : JobId) : String × String := ("job_id", signedDecimal id.toInt)

/-- The processes of an entry as a named value. -/
def Entry.pidsField (e : Entry) : String × String := ("pids", displayPids e.pids)

/-- The creation time of an entry as a named value. -/
def Entry.createdAtField (e : Entry) : String × String :=
  ("created_at", TimeNotation.display.write e.createdAt)

/-- The line that reports a change of the registry. -/
def Change.logLine (c : Change) : LogLine := { level := .debug, message := c.display }

end JobMonitor
