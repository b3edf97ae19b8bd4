import JobMonitor.Launch.Course
import JobMonitor.Log.Line
import JobMonitor.Time.Instant

set_option autoImplicit false

/-! # The host

The machine that the monitor runs on, as far as the monitor sees it: its files, processes and clock,
and what has been logged. Which programs it has and what becomes of them when they are started is left
open. An action on it may fail; what it did before it failed remains. -/

namespace JobMonitor

/-- The files, processes and clock of a machine and the log. -/
structure Host where
  files : Files := .empty
  log : List LogLine := []
  /-- The process of the monitor. -/
  process : Nat := 1
  /-- The other processes that are alive. -/
  processes : List Nat := [1]
  /-- What the clock shows. -/
  time : Instant := .epoch
  /-- The variables that processes start with. -/
  bindings : List (String × String) := []
  /-- What becomes of a program that is started. -/
  spawner : Spawner := fun _ => .error .notFound
  /-- What the programs that have been launched have printed. -/
  printed : String := ""
  /-- What they have complained about. -/
  complaints : String := ""
deriving Inhabited

/-- An action on the host that cannot fail. -/
abbrev HostAction := StateM Host

/-- An action on the host that may fail. -/
abbrev HostAttempt (ε : Type) := ExceptT ε HostAction

/-- Logs a line. -/
def Host.report (line : LogLine) : HostAction Unit := modify fun h => { h with log := h.log ++ [line] }

/-- Logs a line of a level without named values. -/
def Host.say (level : LogLevel) (message : String) : HostAction Unit := Host.report { level, message }

/-- What the clock shows. -/
def Host.now : HostAction Instant := return (← get).time

/-! ## Processes -/

/-- A process has begun. -/
def Host.beginProcess (number : Nat) : HostAction Unit :=
  modify fun h => { h with processes := number :: h.processes }

/-- Ends a process. -/
def Host.endProcess (number : Nat) : HostAction Unit :=
  modify fun h => { h with processes := h.processes.filter (· ≠ number) }

/-- The number is that of a process that is alive. In its place 0 stands for the processes that
    belong together with that of the monitor, and -1 for all processes. -/
def Host.isAlive (h : Host) (number : Int) : Bool :=
  number = 0 || number = -1 || number = h.process || h.processes.any fun p => (p : Int) = number

/-- Starts a program. -/
def Host.spawn {ε : Type} (wrap : OsError → ε) (program : String) (arguments : List String) :
    HostAttempt ε Spawned := do
  let h ← get
  match h.spawner ⟨program, arguments, h.files, h.bindings, h.process, h.processes⟩ with
  | .error e => throw (wrap e)
  | .ok spawned =>
    spawned.process.forM fun process => Host.beginProcess process.toNat
    pure spawned

/-! ## Files -/

/-- Changes a file. -/
def Host.modifyFile (id : FileId) (change : FileNode → FileNode) : HostAction Unit :=
  modify fun h => { h with files := h.files.modify id change }

/-- The file with a number. -/
def Host.node (id : FileId) : HostAction FileNode := return (← get).files.node id

/-- Everything that has been handed over to be written is written, as far as files do not refuse it. -/
def Host.writeAll : HostAction Unit :=
  modify fun h => { h with files := { h.files with nodes := h.files.nodes.map FileNode.write } }

/-- Waits until what has been handed over to be added to a file has been written. If the file refuses it,
    it is lost. -/
def Host.awaitWriting (id : FileId) : HostAction (Except OsError Unit) := do
  let node ← Host.node id
  Host.modifyFile id fun n => { n.write with unwritten := [] }
  pure (if node.unwritten.isEmpty then .ok () else node.refusal.elim (.ok ()) .error)

/-- Hands over bytes to be added to a file, as soon as what was handed over before has been written. -/
def Host.handOver (id : FileId) (bytes : Bytes) : HostAction (Except OsError Unit) := do
  match ← Host.awaitWriting id with
  | .error e => pure (.error e)
  | .ok () =>
    Host.modifyFile id fun n => { n with unwritten := bytes }
    pure (.ok ())

/-- Answers a question about the files, which may fail. -/
def Host.ask {ε α : Type} (wrap : OsError → ε) (question : Files → Except OsError α) :
    HostAttempt ε α := do
  match question (← get).files with
  | .ok a => pure a
  | .error e => throw (wrap e)

/-- Makes a file. -/
def Host.make {ε : Type} (wrap : OsError → ε) (path : Path) (kind : FileKind) :
    HostAttempt ε Unit := do
  let files ← Host.ask wrap (·.make path kind)
  modify fun h => { h with files }

/-- The file that a path leads to, made if nothing is there. -/
def Host.findOrMake {ε : Type} (wrap : OsError → ε) (path : Path) : HostAttempt ε FileId := do
  let (id, files) ← Host.ask wrap (·.findOrMake path)
  modify fun h => { h with files }
  pure id

/-- Makes the directory that a path lies in. -/
def Host.makeParents {ε : Type} (wrap : OsError → ε) (path : Path) : HostAttempt ε Unit := do
  match path.directory? with
  | none => pure ()
  | some directory =>
    let (made, files) := (← get).files.makeDirectories directory.ancestors
    modify fun h => { h with files }
    match made with
    | .ok () => pure ()
    | .error e => throw (wrap e)

/-- Changes the file that a path leads to, which is made if nothing is there, with the directories that
    it lies in. Nothing happens if it cannot be made. -/
def Host.put (path : Path) (change : FileNode → FileNode) : HostAction Unit := do
  let attempt : HostAttempt OsError Unit := do
    Host.makeParents id path
    let file ← Host.findOrMake id path
    Host.modifyFile file change
  let _ ← attempt.run

/-- Runs an action and, if it fails, another one after it. -/
def Host.orElseDo {ε α : Type} (action : HostAttempt ε α) (after : HostAction Unit) :
    HostAttempt ε α :=
  tryCatch action fun e => do
    after
    throw e

end JobMonitor
