import JobMonitor.Shell.Fields
import JobMonitor.Shell.Session
import JobMonitor.Shell.Source

set_option autoImplicit false

/-! # Interpreters

An interpreter runs commands that stand in others, with less depth left for them. With it a shell runs
texts, heeds signals and ends. -/

namespace JobMonitor.Shell

/-- What runs the parts of a command. -/
structure Interpreter where
  /-- Runs a command. It may be one the failure of which is looked at. -/
  run : (isTested : Bool) → Command → Act Unit
  /-- What a word stands for. -/
  expand : Word → Act (List Glyph)
  /-- Runs a command by its name, which may be that of a function or not. Gives its status. -/
  invoke : (isTested mayBeFunction : Bool) → List String → Act Nat
  /-- Runs a program in the place of the process. Gives its exit status. -/
  execute : List String → Act Nat

/-- Runs what is left of a script, line by line. A script without a command has the status 0. -/
def Interpreter.runLines (i : Interpreter) (isTested hasRun : Bool) : (fuel : Nat) → Source → Act Unit
  | 0, _ => pure ()
  | fuel + 1, source => do
    match readLine.run source with
    | none => fault "Syntax error"
    | some (none, _) => if !hasRun then setStatus 0
    | some (some (.sequence []), source) => i.runLines isTested hasRun fuel source
    | some (some command, source) =>
      i.run isTested command
      i.runLines isTested true fuel source

/-- Runs a script. -/
def Interpreter.runText (i : Interpreter) (isTested : Bool) (text : String) : Act Unit :=
  i.runLines isTested false (text.length + 1) { rest := text.toList }

/-! ## Signals -/

/-- Runs what is to be done about a signal. The status stays what it was. -/
def Interpreter.runTrap (i : Interpreter) (text : String) : Act Unit := do
  let shell ← theShell
  modifyShell ({ · with trapStatus := some shell.status })
  i.runText false text
  modifyShell ({ · with status := shell.status, trapStatus := shell.trapStatus })

/-- Heeds a signal that has arrived. -/
def Interpreter.heedOne (i : Interpreter) (sent : SentSignal) : Act Unit := do
  let traps := (← theShell).traps
  let trap := if isUnavoidable sent.signal then none else traps.lookup sent.signal
  match trap, standardEffect sent.signal with
  | some text, _ => if text ≠ "" then i.runTrap text
  | none, .nothing => pure ()
  | none, .stops => throw .neverEnds
  | none, .kills =>
    modify fun s => { s with now := min s.now sent.time }
    throw (.dies sent.signal)

/-- Heeds the signals that have arrived. A copy of the shell leaves them to it. -/
def Interpreter.heed (i : Interpreter) : Act Unit := do
  let s ← get
  if ¬ s.shell.isCopy then
    let isHere (sent : SentSignal) : Bool := sent.process = s.shell.process && sent.time ≤ s.now
    set { s with signals := s.signals.filter fun sent => !isHere sent }
    (s.signals.filter isHere).forM i.heedOne

/-! ## The end of a shell -/

/-- Leaves the shell. What is to be done at its end is done before that. -/
def Interpreter.leave (i : Interpreter) (status : Nat) : Act Unit := do
  let shell ← theShell
  if let some text := shell.traps.lookup 0 then
    modifyShell fun s =>
      { s with traps := s.traps.filter (·.1 ≠ 0), status, trapStatus := some status, loops := 0 }
    tryCatch (i.runText false text) fun
      | .returns | .leaves _ | .repeats _ => pure ()
      | .fault => throw (.exits 2)
      | stop => throw stop
  throw (.exits status)

/-- Something goes on for ever, unless a signal ends it. -/
def goOn : Act Unit := do
  let s ← get
  let fatal := s.signals.filter fun sent => sent.process = s.shell.process
    && (isUnavoidable sent.signal || (s.shell.traps.lookup sent.signal).isNone)
  match fatal.find? (standardEffect ·.signal = .kills) with
  | some sent =>
    modify fun s => { s with now := max s.now sent.time }
    throw (.dies sent.signal)
  | none => throw .neverEnds

/-- Runs an action up to the end of the shell. -/
def Interpreter.upToEnd (i : Interpreter) (action : Act Unit) : Act Unit := do
  tryCatch (do
    tryCatch action fun
      | .exits status => i.leave status
      | .fault => i.leave 2
      | .returns | .leaves _ | .repeats _ => pure ()
      | stop => throw stop
    i.leave (← theShell).status) fun
    | .neverEnds => goOn
    | stop => throw stop

/-- Runs an action in a copy of the shell. -/
def Interpreter.subshell (i : Interpreter) (change : Memory → Memory) (action : Act Unit) :
    Act (Option Ending) :=
  inProcess (fun s => change s.copy) (i.upToEnd action)

/-- Runs an action in a copy of the shell that is not waited for. Gives the number of its process. -/
def Interpreter.start (i : Interpreter) (change : Memory → Memory) (action : Act Unit) : Act Nat := do
  let process ← newProcess
  let begin := (← get).now
  let ending ← i.subshell change action
  modify fun s =>
    { s with now := begin, backgrounds := ⟨process, ending.map fun e => (s.now, e)⟩ :: s.backgrounds }
  return process

end JobMonitor.Shell
