import JobMonitor.Command.Line
import JobMonitor.Files.Path
import JobMonitor.Job.Submission
import JobMonitor.Launch.Job

set_option autoImplicit false

/-! # Commands

What the program can be told to do: to run the monitor, to submit a job to one that is running, or
to show the configuration. -/

namespace JobMonitor

/-- Asks for the monitor. -/
structure RunRequest where
  /-- The program to launch and watch. -/
  program : Option String
  arguments : List String
  /-- When to kill it, in seconds. -/
  timeoutSeconds : Option UInt64
deriving DecidableEq, Repr

/-- Asks to submit a job. -/
structure SubmitRequest where
  jobId : JobId
  pids : List Int64
  /-- The creation time as it was given. -/
  createTime : Option String
  /-- Says that there is no creation time. -/
  isTimeInvalid : Bool
  isUpdate : Bool
  /-- The channel to write to instead of the configured one. -/
  channel : Option Path
deriving DecidableEq, Repr

/-- What the program is told to do. -/
inductive Command where
  | run (request : RunRequest)
  | submit (request : SubmitRequest)
  | showConfig
deriving DecidableEq, Repr

/-- A command and the configuration file to go by. -/
structure Invocation where
  configFile : Option Path
  command : Command
deriving DecidableEq, Repr

/-! ## Options -/

/-- The options that every command has. -/
def sharedOptions : List OptionSpec := [
  { name := "config", use := .value .path false },
  { name := "help", letter := some 'h', use := .help }]

/-- The options of the program alone. -/
def programOptions : List OptionSpec := [{ name := "version", letter := some 'V', use := .version }]

/-- The options of the command that runs the monitor. -/
def runOptions : List OptionSpec := [
  { name := "exec", use := .value .text false },
  { name := "args", use := .rest .text, needs := some "exec" },
  { name := "timeout", use := .value .natural false, needs := some "exec" }]

/-- The options of the command that submits a job. -/
def submitOptions : List OptionSpec := [
  { name := "job-id", use := .value .integer false, isRequired := true },
  { name := "pid", use := .value .integer true, allowsNegative := true },
  { name := "create-time", use := .value .text false, excludes := some "invalid-time" },
  { name := "invalid-time", use := .flag },
  { name := "update", use := .flag },
  { name := "fifo", use := .value .path false }]

/-- What can be said on the command line. -/
def programSpec : ProgramSpec where
  shared := sharedOptions
  options := programOptions
  commands := [("run", runOptions), ("submit", submitOptions), ("config", [])]

/-! ## From options to commands -/

/-- The texts that an option was given. -/
def FoundOptions.texts (found : FoundOptions) (name : String) : List String :=
  ((found.lookup name).getD []).filterMap fun
    | .text content => some content
    | _ => none

/-- The integers that an option was given. -/
def FoundOptions.integers (found : FoundOptions) (name : String) : List Int64 :=
  ((found.lookup name).getD []).filterMap fun
    | .integer n => some n
    | _ => none

/-- The naturals that an option was given. -/
def FoundOptions.naturals (found : FoundOptions) (name : String) : List UInt64 :=
  ((found.lookup name).getD []).filterMap fun
    | .natural n => some n
    | _ => none

/-- The command that options make. -/
def FoundCommand.toCommand (c : FoundCommand) : Command :=
  let o := c.options
  if c.command = "run" then
    .run ⟨(o.texts "exec").head?, o.texts "args", (o.naturals "timeout").head?⟩
  else if c.command = "submit" then
    .submit {
      jobId := (o.integers "job-id").headD 0
      pids := o.integers "pid"
      createTime := (o.texts "create-time").head?
      isTimeInvalid := o.has "invalid-time"
      isUpdate := o.has "update"
      channel := (o.texts "fifo").head? }
  else .showConfig

/-- Reads the command line. A configuration file behind the command comes before one in front of
    it. -/
def readCommandLine (arguments : List String) : Except UsageError Invocation := do
  let c ← programSpec.read arguments
  let files := c.options.texts "config" ++ c.programOptions.texts "config"
  return ⟨files.head?, c.toCommand⟩

/-! ## What commands ask for -/

/-- The program that the monitor launches. -/
def RunRequest.launch? (r : RunRequest) : Option Launch :=
  r.program.map fun program =>
    ⟨program, r.arguments, r.timeoutSeconds.map fun seconds => seconds.toNat * 1000⟩

/-- The creation time that is submitted. A text that names no time is submitted as it is. -/
def SubmitRequest.createdAt (r : SubmitRequest) (now : Instant) : CreationTime :=
  if r.isTimeInvalid then .unset
  else match r.createTime with
    | some text => .ofJson (.string text)
    | none => .valid now

/-- The submission. -/
def SubmitRequest.submission (r : SubmitRequest) (now : Instant) : Submission :=
  ⟨r.jobId, r.pids, r.createdAt now, r.isUpdate⟩

/-- What to warn of before a submission that may be in the way of a launched program. -/
def SubmitRequest.warning? (r : SubmitRequest) : Option String :=
  if r.jobId = launchedJobId ∧ ¬ r.isUpdate then
    some ("Warning: job " ++ signedDecimal r.jobId.toInt ++ " is the id \x60run --exec\x60 gives its launched program. "
      ++ "With the default reject policy this submission fails if one is running; "
      ++ "pass --update to replace it.")
  else none

end JobMonitor
