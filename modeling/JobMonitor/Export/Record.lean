import JobMonitor.Job.Entry
import JobMonitor.Json.Printer

set_option autoImplicit false

/-! # Export records

The journal that the monitor exports holds one JSON document a line for each change, with the time
at which it was exported. -/

namespace JobMonitor

/-- A change and the time at which it is exported. -/
structure ExportRecord where
  exportedAt : Instant
  change : Change
deriving DecidableEq

/-- The name of the member that holds the time. -/
def ExportRecord.timeKey : String := "exported_at"

/-- The JSON object of a record: the time, then the members of the change. -/
def ExportRecord.toJson (r : ExportRecord) : Json :=
  .object ((timeKey, r.exportedAt.toJson) :: r.change.members)

/-- The line of a record. -/
def ExportRecord.line (r : ExportRecord) : Bytes := r.toJson.bytes ++ [newline]

end JobMonitor
