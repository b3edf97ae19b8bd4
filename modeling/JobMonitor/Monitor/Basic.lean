import JobMonitor.Config.Basic
import JobMonitor.Export.Exporters
import JobMonitor.Ingest.Listener
import JobMonitor.Launch.Job
import JobMonitor.Registry.Sweep

set_option autoImplicit false

/-! # The monitor

A running monitor takes in what is written to its channel, sweeps out finished jobs and exports the
changes of its registry. These activities take turns in any order, and none of them is done in one go: a
submission is judged in one turn and registered in another, a sweep may be interrupted between two
removals and an export between two changes. When the monitor stops it ends what it has begun with a frame,
takes in nothing more, and exports what has not been exported. -/

namespace JobMonitor

/-- Why a monitor does not start. -/
inductive MonitorError where
  | channel (path : Path) (cause : ChannelError)
  | journal (cause : ExportError)
  | launch (cause : LaunchError)
deriving DecidableEq

/-- The wording of an error. -/
def MonitorError.message : MonitorError → String
  | .channel path _ => "failed to open job channel " ++ path
  | .journal cause => cause.message
  | .launch cause => cause.message

/-- What is behind an error, the nearest cause first. -/
def MonitorError.causes : MonitorError → List String
  | .channel _ cause => cause.message :: (cause.cause?.map OsError.message).toList
  | .journal cause => [cause.cause.message]
  | .launch cause => cause.cause?.toList

/-- How far a monitor has got with the frame that it has taken from its channel last. -/
inductive InHand where
  /-- It is done with the frame. -/
  | nothing
  /-- The frame holds a submission that is still to be judged. -/
  | submitted (s : Submission)
  /-- The submission has been admitted and is still to be registered. -/
  | admitted (a : Admitted)
deriving DecidableEq

/-- A running monitor. -/
structure Monitor where
  listener : Listener
  inHand : InHand := .nothing
  exporters : List (Exporter HostAction)
  /-- How many changes the export has got from the feed. -/
  position : Nat
  launched : Option LaunchedProgram
  /-- Finished jobs are looked for. -/
  isSweeping : Bool

/-- The registry of a monitor. -/
def Monitor.registry (m : Monitor) : Registry := m.listener.intake.registry

/-- A monitor with another registry. -/
def Monitor.withRegistry (m : Monitor) (registry : Registry) : Monitor :=
  { m with listener := { m.listener with intake := { m.listener.intake with registry } } }

/-! ## Starting -/

/-- The exporters of a monitor: the log and, if it has one, the journal. -/
def openExporters (journal : Option Path) :
    HostAttempt ExportError (List (Exporter HostAction)) := do
  match journal with
  | none => return [logExporter Host.report]
  | some path =>
    let file ← openJournal path
    Host.say .info ("Exporting job events to " ++ path)
    return [logExporter Host.report, journalExporter path file]

/-- The name under which the export is subscribed. -/
def exportName : String := "export"

/-- Wraps the error of an attempt. -/
def wrapError {ε δ α : Type} (wrap : ε → δ) (attempt : HostAttempt ε α) : HostAttempt δ α :=
  ExceptT.mk (return (← attempt.run).mapError wrap)

/-- Launches the program of a monitor, if it has one. -/
def launchFor (launch : Option Launch) (registry : Registry) :
    HostAttempt LaunchError (Option LaunchedProgram × Registry) := do
  match launch with
  | none => return (none, registry)
  | some l =>
    let (program, registry) ← launchProgram l registry
    return (some program, registry)

/-- Starts a monitor on a channel that has been bound. The export is subscribed before the program
    is launched, so that it hears of its job. -/
def startBound (listener : Listener) (config : Config) (launch : Option Launch) :
    HostAttempt MonitorError Monitor := do
  let exporters ← wrapError .journal (openExporters config.exportFile)
  let registry := listener.intake.registry.subscribe exportName
  let position := (registry.feed.position? exportName).getD 0
  let (launched, registry) ← wrapError .launch (launchFor launch registry)
  Host.say .info "JobLens daemon started"
  let monitor : Monitor :=
    { listener, exporters, position, launched, isSweeping := config.sweepInterval?.isSome }
  return monitor.withRegistry registry

/-- Starts a monitor. If it does not start it gives up the channel. -/
def Monitor.start (config : Config) (launch : Option Launch) :
    HostAttempt MonitorError Monitor := do
  let listener ← wrapError (.channel config.channel)
    (Listener.bind config.channel Registry.new config.ingestOptions)
  Host.orElseDo (startBound listener config launch) listener.close

/-! ## Taking turns -/

/-- What happens while a monitor runs. -/
inductive MonitorEvent where
  /-- The clock goes on. -/
  | clock (now : Instant)
  /-- Other processes begin and end. -/
  | processes (alive : List Nat)
  /-- Somebody writes to the channel. -/
  | arrives (bytes : Bytes)
  /-- The host writes what has been handed over to be added to files. -/
  | writes
  /-- The monitor takes the next frame from the channel, if there is one and it is done with the last. -/
  | reads
  /-- The monitor judges the submission that it has in hand. -/
  | judges
  /-- The monitor registers the submission that it has admitted. -/
  | registers
  /-- The sweep under way comes to a job and removes it if it is finished. -/
  | removes (id : JobId)
  /-- The monitor looks for finished jobs, if it does so at all, and is not interrupted. -/
  | sweeps
  /-- The export does what it does next. -/
  | exportsNext
  /-- The monitor exports the changes that have not been exported. -/
  | exports

/-! ### Taking in -/

/-- Takes over what the intake has done with the frame in hand. -/
def Monitor.settle (m : Monitor) (handled : Handled) : HostAction Monitor := do
  handled.log.forM Host.report
  return { m with listener := { m.listener with intake := handled.intake }, inHand := .nothing }

/-- Takes a frame in hand and decodes it. -/
def Monitor.pickUp (m : Monitor) : Frame → HostAction Monitor
  | .discarded length reason => m.settle (m.listener.intake.turnDown (.discarded length reason))
  | .message payload =>
    match Submission.decode payload with
    | .error e => m.settle (m.listener.intake.turnDown (.undecodable e))
    | .ok s => return { m with inHand := .submitted s }

/-- Takes the next frame from the channel, unless one is in hand. -/
def Monitor.read (m : Monitor) : HostAction Monitor := do
  if m.inHand ≠ .nothing then return m
  let (frame, reader) ← m.listener.reader.next
  let m := { m with listener := { m.listener with reader } }
  match frame with
  | none => return m
  | some frame => m.pickUp frame

/-- Judges the submission in hand. -/
def Monitor.judge (m : Monitor) : HostAction Monitor := do
  match m.inHand with
  | .submitted s =>
    match m.listener.intake.judge s (← Host.now) with
    | .error reason => m.settle (m.listener.intake.turnDown (.rejected s.jobId reason))
    | .ok a =>
      Host.report a.logLine
      return { m with inHand := .admitted a }
  | _ => return m

/-- Registers the admitted submission in hand. -/
def Monitor.register (m : Monitor) : HostAction Monitor :=
  match m.inHand with
  | .admitted a => m.settle (m.listener.intake.register a.entry)
  | _ => return m

/-! ### Sweeping -/

/-- Asks the host whether a process is alive. -/
def hostProbe : Probe HostAction := fun pid => return (← get).isAlive pid.toInt

/-- Removes a job if it is finished. -/
def Monitor.removeFinished (m : Monitor) (id : JobId) : HostAction Monitor := do
  let removal ← m.registry.removeFinished hostProbe id
  (sweepLog removal.result.toList).forM Host.report
  return m.withRegistry removal.registry

/-- Looks for finished jobs. -/
def Monitor.sweep (m : Monitor) : HostAction Monitor := do
  let (removed, registry) ← m.registry.sweep hostProbe
  (sweepLog removed).forM Host.report
  return m.withRegistry registry

/-! ### Any turn -/

/-- Lets something happen. -/
def Monitor.step (m : Monitor) : MonitorEvent → HostAction Monitor
  | .clock time => do
    modify fun h => { h with time }
    return m
  | .processes processes => do
    modify fun h => { h with processes }
    return m
  | .arrives bytes => do
    Host.modifyFile m.listener.reader.file fun n => { n with bytes := n.bytes ++ bytes }
    return m
  | .writes => do
    Host.writeAll
    return m
  | .reads => m.read
  | .judges => m.judge
  | .registers => m.register
  | .removes id => if m.isSweeping then m.removeFinished id else return m
  | .sweeps => if m.isSweeping then m.sweep else return m
  | .exportsNext => do
    let position ← exportNext Host.report m.exporters m.registry.feed m.position
    return { m with position }
  | .exports => do
    let position ← drainChanges Host.report m.exporters m.registry.feed m.position
    return { m with position }

/-! ## Stopping -/

/-- What a monitor leaves behind. -/
structure MonitorExit where
  counts : IngestCounts
  /-- The exit code of the launched program. -/
  exitCode : Option Int
deriving DecidableEq, Repr

/-- The line that sums up what has been taken in. -/
def intakeStopped (c : IngestCounts) : LogLine :=
  { level := .info, message := "Job ingestion stopped"
    fields := [("accepted", decimal c.accepted), ("updated", decimal c.updated),
      ("rejected", decimal c.rejected), ("malformed", decimal c.malformed),
      ("discarded", decimal c.discarded)] }

/-- Leaves a monitor that has nothing in hand: the program is waited for, the channel is given up and
    the changes that are left are exported. -/
def Monitor.leave (m : Monitor) (isCancelled : Bool) : HostAction MonitorExit := do
  let exitCode ← m.launched.mapM (·.wait isCancelled)
  let counts := m.listener.intake.counts
  Host.report (intakeStopped counts)
  m.listener.close
  runExport Host.report m.exporters .cancelled m.registry.feed m.position
  Host.report { level := .info, message := "JobLens daemon stopped"
                fields := [("jobs", decimal m.registry.table.size)] }
  return ⟨counts, exitCode⟩

/-- Stops a monitor, because it has been told to or because its program has ended. A frame that it has in
    hand is handled first. Gives the monitor as it is then. -/
def Monitor.stop (m : Monitor) (isCancelled : Bool) : HostAction (MonitorExit × Monitor) := do
  let m ← (← m.judge).register
  return (← m.leave isCancelled, m)

/-- Runs a monitor while things happen, then stops it. -/
def Monitor.run (m : Monitor) (events : List MonitorEvent) (isCancelled : Bool) :
    HostAction (MonitorExit × Monitor) := do
  (← events.foldlM Monitor.step m).stop isCancelled

end JobMonitor
