import JobMonitor.Export.Delivery
import JobMonitor.Export.Record
import JobMonitor.Files.Host

set_option autoImplicit false

/-! # Exporters

Changes go to the log and, if the monitor is told so, to a journal: a file to which the line of a
record is added for each change. -/

namespace JobMonitor

/-! ## The log -/

/-- The line of a change in the log. -/
def exportLogLine (c : Change) : LogLine :=
  { level := .info, message := c.display
    fields := [c.entry.jobId.logField, c.entry.pidsField, c.entry.createdAtField] }

/-- Reports each change in the log. -/
def logExporter {m : Type → Type} [Monad m] (report : LogLine → m Unit) : Exporter m where
  name := "Log"
  deliver c := do
    report (exportLogLine c)
    pure (.ok ())
  flush := pure (.ok ())

/-! ## The journal -/

/-- Why a journal cannot be opened. -/
inductive ExportError where
  | directory (path : Path) (cause : OsError)
  | file (path : Path) (cause : OsError)
deriving DecidableEq, Repr

/-- The wording of an error. -/
def ExportError.message : ExportError → String
  | .directory path _ => "failed to create export directory " ++ path
  | .file path _ => "failed to open export file " ++ path

/-- What the operating system said. -/
def ExportError.cause : ExportError → OsError
  | .directory _ cause | .file _ cause => cause

/-- Opens the file of a journal. What is in it stays. -/
def openJournal (path : Path) : HostAttempt ExportError FileId := do
  Host.makeParents (.directory (path.directory?.getD "")) path
  Host.findOrMake (.file path) path

/-- Hands over the record of a change to be added to the file of a journal. -/
def appendRecord (path : Path) (file : FileId) (c : Change) : HostAction (Except String Unit) := do
  let record : ExportRecord := ⟨← Host.now, c⟩
  return (← Host.handOver file record.line).mapError fun e =>
    "failed to write to " ++ path ++ ": " ++ e.message

/-- Waits until all records are in the file of a journal. -/
def flushRecords (file : FileId) : HostAction (Except String Unit) :=
  return (← Host.awaitWriting file).mapError OsError.message

/-- Adds the record of each change to a file. The host may take its time to write a record; it is waited
    for before the next one is handed over, and when the journal is flushed. -/
def journalExporter {m : Type → Type} [Monad m] [MonadLiftT HostAction m] (path : Path)
    (file : FileId) : Exporter m where
  name := "JsonLines"
  deliver c := liftM (appendRecord path file c)
  flush := liftM (flushRecords file)

end JobMonitor
