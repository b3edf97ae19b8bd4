import JobMonitor.Shell.Run

set_option autoImplicit false

/-! # A machine with a shell

What becomes of a program that is started on a machine that has a shell and the common programs. This is
one way to fill in what a host does with programs; nothing that the monitor does depends on it. -/

namespace JobMonitor.Shell

/-- A program of the machine, or why there is none. A name without a slash is looked for only where
    programs are. -/
def findProgram (s : Startup) : Except OsError Unit :=
  let searchPath := (s.bindings.lookup "PATH").getD standardSearchPath
  if '/' ∈ s.program.toList then
    match programAt? s.files.home s.program, s.files.furnished.kind s.program with
    | some _, _ => .ok ()
    | none, .ok _ => .error .notExecutable
    | none, .error e => .error e
  else if s.program = "." ∨ s.program = ".." then .error .notExecutable
  else if s.program.utf8ByteSize > maxNameBytes then .error .nameTooLong
  else if (searchProgram? searchPath s.program).isSome then .ok ()
  else .error .notFound

/-- The course of a program that is run as a process of its own. -/
def courseOf (s : Startup) (process : Nat) : Course :=
  let shell : Memory := {
    name := s.program, arguments := [], process, parent := s.parent
    bindings := s.bindings.map fun (name, value) => (name, { value := some value, isExported := true }) }
  let session : Session := { shell, files := s.files.furnished, newestProcess := process }
  let action : Act Unit := do
    throw (.exits (← (interpreter maxDepth).execute (s.program :: s.arguments)))
  let (ending, after) := (inProcess id action).run session
  match ending with
  | .ok (some ending) => ⟨some after.now, ending, after.printed⟩
  | _ => ⟨none, .unknown, after.printed⟩

/-- Starts a program. Its process gets the next number. -/
def spawn : Spawner := fun s => do
  if (s.program :: s.arguments).any ('\x00' ∈ ·.toList) then throw .zeroByteInPath
  findProgram s
  let process := s.processes.foldl max s.parent + 1
  return ⟨some (UInt32.ofNat process), courseOf s process⟩

end JobMonitor.Shell
