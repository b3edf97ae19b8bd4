import JobMonitor.Config.Variable
import JobMonitor.Files.Host
import JobMonitor.Log.Filter
import JobMonitor.Text.Quoted

set_option autoImplicit false

/-! # Setting up the log

The filter of the log is checked before its file is made. -/

namespace JobMonitor

/-- Why there is no log. -/
inductive LogSetupError where
  | badFilter (text : String) (cause : FilterError)
  | noFileName (path : Path)
  | directory (path : Path) (cause : OsError)
  | file (path : Path) (cause : OsError)
deriving DecidableEq, Repr

/-- The wording of an error. -/
def LogSetupError.message : LogSetupError → String
  | .badFilter text _ => "invalid log level " ++ quoteText text
  | .noFileName path => "log file " ++ path ++ " has no file name"
  | .directory path _ => "failed to create log directory " ++ path
  | .file path _ => "failed to open log file " ++ path

/-- What is behind an error, the nearest cause first. -/
def LogSetupError.causes : LogSetupError → List String
  | .badFilter _ .directive => [FilterError.directive.message]
  | .badFilter _ .level => [FilterError.level.message, FilterError.level.message]
  | .badFilter _ .value => [FilterError.value.message, FilterError.value.message]
  | .noFileName _ => []
  | .directory _ cause | .file _ cause => [cause.message]

/-- Makes the file of a log and the directory that it lies in. -/
def openLogFile (path : Path) : HostAttempt LogSetupError FileId := do
  match path.fileName? with
  | none => throw (.noFileName path)
  | some name =>
    let directory := path.directory?.getD "."
    Host.makeParents (.directory directory) path
    Host.findOrMake (.file path) (directory.within name)

/-- The variable that can hold a filter. -/
def filterVariable : String := "RUST_LOG"

/-- Sets up the log. A filter from the environment comes before the configured one if it is one. Gives
    the file that the log is written to, if it is written to one. -/
def setUpLog (environment : Environment) (filter : String) (path : Option Path) :
    HostAttempt LogSetupError (Option FileId) := do
  let isGiven := (environment.lookup filterVariable).any fun text => (checkFilter text).isOk
  match if isGiven then .ok () else checkFilter filter with
  | .error e => throw (.badFilter filter e)
  | .ok () => path.mapM openLogFile

end JobMonitor
