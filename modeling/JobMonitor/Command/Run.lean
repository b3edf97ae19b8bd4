import JobMonitor.Command.Basic
import JobMonitor.Command.Failure
import JobMonitor.Config.Load
import JobMonitor.Log.Setup
import JobMonitor.Monitor.Basic

set_option autoImplicit false

/-! # Running commands

What the program prints and which exit code it ends with. -/

namespace JobMonitor

/-- What is left of a program that has ended. -/
structure ProgramOutput where
  code : Int
  stdout : String := ""
  stderr : String := ""
deriving DecidableEq, Repr

/-- What the world does to a program while it runs. -/
structure ProgramWorld where
  environment : Environment
  /-- What happens to a monitor until it is told to stop. -/
  events : List MonitorEvent := []

/-! ## Usage -/

/-- The name and the version of the program. -/
def versionText : String := "joblens 2025.8.1\n"

/-- What the program can be told to do. -/
def helpText : String :=
  "Registers jobs and the processes that belong to them for monitoring\n\n"
    ++ "Usage: joblens [--config FILE] <COMMAND>\n\n"
    ++ "Commands:\n"
    ++ "  run     Run the monitor in the foreground\n"
    ++ "  submit  Submit one job to a running monitor\n"
    ++ "  config  Print the resolved configuration as JSON\n"
    ++ "  help    Print this message\n"

/-- The output of a program whose command line does not make a command. -/
def UsageError.output : UsageError → ProgramOutput
  | .help => { code := 0, stdout := helpText }
  | .version => { code := 0, stdout := versionText }
  | _ => { code := 2, stderr := helpText }

/-! ## Commands -/

/-- Submits a job. Gives what is printed. -/
def SubmitRequest.execute (r : SubmitRequest) (config : Config) (now : Instant) :
    HostAttempt Failure String := do
  let channel := r.channel.getD config.channel
  let unreachable (e : SubmissionError) : Failure :=
    ("Can't connect to job channel " ++ channel ++ ". Is \x60joblens run\x60 running?") :: e.chain
  let refused (e : SubmissionError) : Failure :=
    ("Failed to submit job " ++ signedDecimal r.jobId.toInt) :: e.chain
  let client ← wrapError unreachable (SubmissionClient.connect channel config.maxFrameBytes.toNat)
  Host.orElseDo (wrapError refused (client.submit (r.submission now))) client.close
  client.close
  return "Submitted job " ++ signedDecimal r.jobId.toInt ++ " to " ++ channel ++ "\n"

/-- Runs the monitor until its program ends or it is told to stop. The program prints to where the
    monitor does. -/
def RunRequest.execute (r : RunRequest) (config : Config) (world : ProgramWorld) :
    HostAttempt Failure ProgramOutput := do
  modify fun h => { h with bindings := world.environment ++ h.bindings }
  let _ ← wrapError (fun e => e.message :: e.causes)
    (setUpLog world.environment config.logLevel config.logFile)
  let monitor ← wrapError (fun e => e.message :: e.causes)
    (Monitor.start config r.launch?)
  let (done, _) ← ExceptT.lift (monitor.run world.events r.launch?.isNone)
  let h ← get
  return { code := done.exitCode.getD 0, stdout := h.printed, stderr := h.complaints }

/-- Runs a command. -/
def Command.execute (c : Command) (config : Config) (world : ProgramWorld) :
    HostAttempt Failure ProgramOutput := do
  match c with
  | .run request => request.execute config world
  | .submit request =>
    return { code := 0, stdout := ← request.execute config (← get).time }
  | .showConfig => return { code := 0, stdout := config.toJson.renderIndented ++ "\n" }

/-- What a command warns of before it does anything else. -/
def Command.warning? : Command → Option String
  | .submit request => request.warning?
  | _ => none

/-- Runs the program with the arguments of its command line. -/
def runProgram (arguments : List String) (world : ProgramWorld) : HostAction ProgramOutput := do
  match readCommandLine arguments with
  | .error e => return e.output
  | .ok invocation =>
    match loadConfig (← get).files world.environment invocation.configFile with
    | .error e => return { code := 1, stderr := Failure.report [e.message] }
    | .ok config =>
      let warning := (invocation.command.warning?.map (· ++ "\n")).getD ""
      match ← (invocation.command.execute config world).run with
      | .ok output => return { output with stderr := warning ++ output.stderr }
      | .error failure => return { code := 1, stderr := warning ++ failure.report }

end JobMonitor
