import JobMonitor.Launch.Course
import JobMonitor.Shell.Script
import JobMonitor.Shell.Signal

set_option autoImplicit false

/-! # Sessions

What a shell knows while it runs a script, and what it shares with the processes that it starts: the
files, the clock and what has been printed. A process that a shell starts takes its turn as a whole;
what it does is marked with the time at which it would do it. -/

namespace JobMonitor.Shell

/-- Where output goes, or input comes from. -/
inductive Stream where
  | nothing
  | closed
  | output
  | errors
  /-- A text that is written at its end and read from its front. -/
  | buffer (number : Nat)
  | file (file : FileId)
deriving DecidableEq, Repr

/-- A variable. -/
structure Variable where
  value : Option String := none
  isExported : Bool := false
  isReadOnly : Bool := false
deriving DecidableEq, Repr

/-- A process that its shell does not wait for at once. -/
structure Background where
  process : Nat
  /-- When it ends and how, if it ends at all. -/
  ending : Option (Nat × Ending)
deriving DecidableEq, Repr

/-- A signal that a process is sent at some time. -/
structure SentSignal where
  process : Nat
  time : Nat
  signal : Nat
deriving DecidableEq, Repr

/-- What a shell knows. A process that it starts to run a part of its script begins with a copy. -/
structure Memory where
  /-- What the script calls itself. -/
  name : String
  arguments : List String
  process : Nat
  parent : Nat
  bindings : List (String × Variable)
  functions : List (String × Command) := []
  /-- The open files by number. -/
  streams : List (Nat × Stream) := [(0, .nothing), (1, .output), (2, .errors)]
  /-- What is done about signals. An empty text means that nothing is. -/
  traps : List (Nat × String) := []
  /-- The processes that it has started, does not wait for at once and has not waited for. -/
  children : List Nat := []
  lastBackground : Option Nat := none
  /-- The status of the last command. -/
  status : Nat := 0
  /-- The status of the last script that was run for its output, by the command at hand. -/
  outputStatus : Option Nat := none
  /-- The status before the trap that is being run. -/
  trapStatus : Option Nat := none
  /-- The options that are set, each by its letter. -/
  options : List Char := []
  /-- How many loops the command at hand is in. -/
  loops : Nat := 0
  /-- What the variables of a function hide, while a function is run. -/
  hidden : Option (List (String × Option Variable)) := none
  line : Nat := 1
  /-- How many letters of an argument have been taken as options. -/
  lettersTaken : Nat := 0
  /-- The command of the shell that is being run. -/
  builtin : String := ""
  /-- It is a copy of the shell with its process number. -/
  isCopy : Bool := false

/-- A shell and what it shares with other processes. -/
structure Session where
  shell : Memory
  files : Files
  buffers : List String := []
  /-- How long it has been going on, in milliseconds. -/
  now : Nat := 0
  printed : List Printed := []
  newestProcess : Nat
  backgrounds : List Background := []
  signals : List SentSignal := []

/-- Why a shell does not go on with the next command. -/
inductive Stop where
  | exits (status : Nat)
  | dies (signal : Nat)
  | neverEnds
  /-- A command has been used wrongly. -/
  | fault
  /-- So many loops are left. -/
  | leaves (loops : Nat)
  /-- So many loops but one are left, and the next one goes on with its next turn. -/
  | repeats (loops : Nat)
  | returns
deriving DecidableEq, Repr

/-- What a shell does. -/
abbrev Act := ExceptT Stop (StateM Session)

/-- The shell. -/
def theShell : Act Memory := return (← get).shell

/-- Changes the shell. -/
def modifyShell (change : Memory → Memory) : Act Unit :=
  modify fun s => { s with shell := change s.shell }

/-- Sets the status. -/
def setStatus (status : Nat) : Act Unit := modifyShell ({ · with status })

/-! ## Streams -/

/-- A new buffer with a text. -/
def newBuffer (text : String) : Act Nat :=
  modifyGet fun s => (s.buffers.length, { s with buffers := s.buffers ++ [text] })

/-- What an open file is. -/
def streamAt (file : Nat) : Act Stream := return ((← theShell).streams.lookup file).getD .nothing

/-- Opens a file under a number. -/
def setStream (file : Nat) (stream : Stream) : Act Unit :=
  modifyShell fun s => { s with streams := (file, stream) :: s.streams }

/-- Writes to an open file. -/
def emit (file : Nat) (text : String) : Act Unit := do
  match ← streamAt file with
  | .nothing | .closed => pure ()
  | .output => modify fun s => { s with printed := s.printed ++ [⟨s.now, false, text⟩] }
  | .errors => modify fun s => { s with printed := s.printed ++ [⟨s.now, true, text⟩] }
  | .buffer n => modify fun s => { s with buffers := s.buffers.modify n (· ++ text) }
  | .file id => modify fun s =>
      { s with files := s.files.modify id fun n => { n with bytes := n.bytes ++ Bytes.ofText text } }

/-- Prints a line. -/
def say (line : String) : Act Unit := emit 1 (line ++ "\n")

/-- Prints a text. Gives the status, which is that of a failure if there is nowhere to print to. -/
def print (text : String) : Act Nat := do
  emit 1 text
  return if (← streamAt 1) = .closed then 1 else 0

/-- Prints what is wrong. -/
def complain (message : String) : Act Unit := do
  let shell ← theShell
  let context := if shell.builtin = "" then "" else shell.builtin ++ ": "
  emit 2 (shell.name ++ ": " ++ decimal shell.line ++ ": " ++ context ++ message ++ "\n")

/-- Prints what is wrong and gives up the command. -/
def fault {α : Type} (message : String) : Act α := do
  complain message
  throw .fault

/-- Takes all that is left to read from an open file. -/
def takeAll (file : Nat) : Act String := do
  match ← streamAt file with
  | .buffer n => modifyGet fun s => (s.buffers.getD n "", { s with buffers := s.buffers.set n "" })
  | _ => return ""

/-- Takes a line from an open file, and tells whether it is complete. -/
def takeLine (file : Nat) : Act (String × Bool) := do
  match ← streamAt file with
  | .buffer n => modifyGet fun s =>
      let text := (s.buffers.getD n "").toList
      let line := text.takeWhile (· ≠ '\n')
      let rest := text.drop (line.length + 1)
      ((String.ofList line, line.length < text.length),
        { s with buffers := s.buffers.set n (String.ofList rest) })
  | _ => return ("", false)

/-! ## Variables -/

/-- The value of a variable. -/
def Memory.assigned? (s : Memory) (name : String) : Option String :=
  (s.bindings.lookup name).bind (·.value)

/-- Changes a variable. -/
def Memory.modifyVariable (s : Memory) (name : String) (change : Variable → Variable) : Memory :=
  let bindings := match s.bindings.lookup name with
    | some _ => s.bindings.map fun (n, v) => (n, if n = name then change v else v)
    | none => s.bindings ++ [(name, change {})]
  { s with bindings }

/-- Assigns to a variable. -/
def assign (name value : String) : Act Unit := do
  if ((← theShell).bindings.lookup name).any (·.isReadOnly) then fault (name ++ ": is read only")
  modifyShell fun s => s.modifyVariable name fun v =>
    { v with value := some value, isExported := v.isExported || s.options.contains 'a' }

/-- What a process that is started knows of the variables. -/
def Memory.environment (s : Memory) : List (String × Variable) :=
  s.bindings.filterMap fun (name, v) =>
    if v.isExported ∧ v.value.isSome then some (name, { v with isReadOnly := false }) else none

/-- The letters of the options that are set. -/
def Memory.has (s : Memory) (option : Char) : Bool := s.options.contains option

/-- The values that have a name of their own, and those of the variables. -/
def Memory.value? (s : Memory) (name : String) : Option String :=
  match name with
  | "?" => some (decimal s.status)
  | "$" => some (decimal s.process)
  | "!" => s.lastBackground.map decimal
  | "#" => some (decimal s.arguments.length)
  | "-" => some (String.ofList s.options)
  | "0" => some s.name
  | "@" | "*" => if s.arguments.isEmpty then none else some (" ".intercalate s.arguments)
  | "PPID" => some (decimal s.parent)
  | _ =>
    match natural? name.toList with
    | some n => s.arguments[n - 1]?
    | none => s.assigned? name

/-- The characters that separate fields. -/
def Memory.separators (s : Memory) : List Char := ((s.assigned? "IFS").getD " \t\n").toList

/-! ## Processes -/

/-- The number of a new process. -/
def newProcess : Act Nat :=
  modifyGet fun s => (s.newestProcess + 1, { s with newestProcess := s.newestProcess + 1 })

/-- How a shell has ended, unless it goes on for ever. -/
def endingOf (status : Nat) : Except Stop Unit → Option Ending
  | .ok () | .error .returns | .error (.leaves _) | .error (.repeats _) =>
    some (.exited (UInt8.ofNat status))
  | .error (.exits status) => some (.exited (UInt8.ofNat status))
  | .error (.dies signal) => some (.killed signal)
  | .error .fault => some (.exited 2)
  | .error .neverEnds => none

/-- Lets time go by, in milliseconds. -/
def pass (duration : Nat) : Act Unit := modify fun s => { s with now := s.now + duration }

/-- Runs an action in a process that starts with a changed copy of the shell. Gives how that ends. -/
def inProcess (change : Memory → Memory) (action : Act Unit) : Act (Option Ending) :=
  ExceptT.mk fun s =>
    let (result, after) := action.run { s with shell := change s.shell }
    (.ok (endingOf after.shell.status result),
      { after with shell := s.shell, files := { after.files with home := s.files.home } })

/-- A copy of a shell forgets its traps, but still does nothing about the signals that the shell does
    nothing about. -/
def Memory.copy (s : Memory) : Memory :=
  { s with traps := s.traps.filter (·.2 = ""), children := [], isCopy := true }

/-- The status that stands for the end of a process. -/
def endStatus : Ending → Nat
  | .exited code => code.toNat
  | .killed signal => 128 + signal
  | .unknown => 0

/-- The status of a process that the shell waits for, which has to end. -/
def awaited (ending : Option Ending) : Act Nat := do
  match ending with
  | some e => return endStatus e
  | none => throw .neverEnds

/-- Runs an action, and another one whether it goes well or not. -/
def afterwards {α : Type} (action : Act α) (after : Act Unit) : Act α := do
  let result ← tryCatch (Except.ok <$> action) (pure ∘ Except.error)
  after
  match result with
  | .ok a => return a
  | .error stop => throw stop

/-- Runs an action. The files that it opens are closed afterwards. -/
def keepingStreams {α : Type} (action : Act α) : Act α := do
  let streams := (← theShell).streams
  afterwards action (modifyShell ({ · with streams }))

end JobMonitor.Shell
