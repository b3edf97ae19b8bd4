import JobMonitor.Files.Host
import JobMonitor.Job.Admission
import JobMonitor.Registry.Basic

set_option autoImplicit false

/-! # The launched program

The monitor can launch a program and watch it as a job of its own. The job is submitted like any other,
as an update, so that it replaces one with the same number. When the program ends the monitor stops,
and when the monitor is told to stop it kills the program. -/

namespace JobMonitor

/-- The number of the job of a launched program. -/
def launchedJobId : JobId := 1

/-- A program to launch. -/
structure Launch where
  program : String
  arguments : List String
  /-- When to kill it, in milliseconds. -/
  timeoutMs : Option Nat := none
deriving DecidableEq, Repr

/-- Why a program has not been launched. -/
inductive LaunchError where
  | notStarted (program : String) (cause : OsError)
  /-- It had ended before its process could be told. -/
  | ended
  /-- The number of its process is not the id of a process of a job. -/
  | processOutOfRange
  | rejected (reason : Rejection)
deriving DecidableEq

/-- The wording of an error. -/
def LaunchError.message : LaunchError → String
  | .notStarted program _ => "failed to launch " ++ program
  | .ended => "launched program exited before it could be registered"
  | .processOutOfRange => "pid out of range"
  | .rejected _ => "failed to register launched program"

/-- What is behind an error. -/
def LaunchError.cause? : LaunchError → Option String
  | .notStarted _ cause => some cause.message
  | .ended => none
  | .processOutOfRange => some "out of range integral type conversion attempted"
  | .rejected reason => some (reason.message launchedJobId)

/-! ## Launching -/

/-- A program that has been launched. -/
structure LaunchedProgram where
  pid : Pid
  course : Course
  timeoutMs : Option Nat
deriving DecidableEq, Repr

/-- The number of a process as the id of a process of a job, if it is one. -/
def Pid.ofProcess? (process : UInt32) : Option Pid :=
  if process.toNat ≤ Int32.maxValue.toInt.toNat then some (Int32.ofNat process.toNat) else none

/-- The id of the process of a program that has been started. -/
def Spawned.pid (s : Spawned) : Except LaunchError Pid :=
  match s.process with
  | none => .error .ended
  | some process => (Pid.ofProcess? process).elim (.error .processOutOfRange) .ok

/-- What is submitted for a launched program. -/
def launchSubmission (pid : Pid) (now : Instant) : Submission :=
  ⟨launchedJobId, [pid.toInt64], .valid now, true⟩

/-- Registers a launched program. -/
def registerLaunched (pid : Pid) (registry : Registry) : HostAttempt LaunchError Registry := do
  let s := launchSubmission pid (← Host.now)
  match s.admit (registry.table.contains s.jobId) .reject (← Host.now) with
  | .error reason => throw (.rejected reason)
  | .ok admitted =>
    let committed := registry.upsert admitted.entry
    committed.changes.forM fun c => Host.report c.logLine
    return committed.registry

/-- Launches a program and registers it. A program that is not registered is killed. -/
def launchProgram (l : Launch) (registry : Registry) :
    HostAttempt LaunchError (LaunchedProgram × Registry) := do
  let spawned ← Host.spawn (.notStarted l.program) l.program l.arguments
  let register : HostAttempt LaunchError (LaunchedProgram × Registry) := do
    let pid ← spawned.pid
    Host.say .info ("Launched " ++ l.program ++ " as pid " ++ signedDecimal pid.toInt)
    let registry ← registerLaunched pid registry
    return (⟨pid, spawned.course, l.timeoutMs⟩, registry)
  Host.orElseDo register (spawned.process.forM fun process => Host.endProcess process.toNat)

/-! ## Waiting -/

/-- Why the wait for a program ends. -/
inductive WaitEnd where
  | ended
  | timedOut
  | cancelled
deriving DecidableEq, Repr

/-- Why the wait for a program ends if the monitor is told to stop or not. -/
def LaunchedProgram.waitEnd (p : LaunchedProgram) (isCancelled : Bool) : WaitEnd :=
  if isCancelled then .cancelled
  else if p.timeoutMs.any p.course.lasts then .timedOut
  else .ended

/-- How the program ends. Unless it ends on its own it is killed. -/
def LaunchedProgram.ending (p : LaunchedProgram) (isCancelled : Bool) : Ending :=
  if p.waitEnd isCancelled = .ended then p.course.ending else .killed killSignal

/-- What the program prints before it ends. -/
def LaunchedProgram.printed (p : LaunchedProgram) (isCancelled isError : Bool) : String :=
  p.course.printedBefore isError (match p.waitEnd isCancelled with
    | .ended => none
    | .timedOut => p.timeoutMs
    | .cancelled => some 0)

/-- Waits for the program. Gives its exit code. -/
def LaunchedProgram.wait (p : LaunchedProgram) (isCancelled : Bool) : HostAction Int := do
  let name := "pid " ++ signedDecimal p.pid.toInt
  match p.waitEnd isCancelled with
  | .ended => pure ()
  | .timedOut => Host.say .warn ("Launched " ++ name ++ " killed on timeout")
  | .cancelled => Host.say .info ("Stopping launched " ++ name)
  modify fun h =>
    { h with printed := h.printed ++ p.printed isCancelled false
             complaints := h.complaints ++ p.printed isCancelled true }
  Host.endProcess p.pid.toInt.toNat
  let code := (p.ending isCancelled).exitCode
  Host.say .info ("Launched " ++ name ++ " exited with code " ++ signedDecimal code)
  return code

end JobMonitor
