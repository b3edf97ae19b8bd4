import Std.Time.DateTime.Timestamp
import JobMonitor.Command.Run

set_option autoImplicit false

/-! # The program

Commands are run on a host that holds what the machine has at the paths they need. What they have
written there is then written to the machine. The channel has to be there; a program cannot be
launched from here. -/

namespace JobMonitor.Program

/-! ## What the machine has -/

/-- The environment of the process. -/
def readEnvironment : IO Environment := do
  let bytes ← IO.FS.readBinFile "/proc/self/environ"
  return (pieces '\x00' (String.ofList (Bytes.lenientChars bytes.toList))).map fun line =>
    let name := line.toList.takeWhile (· ≠ '=')
    (String.ofList name, String.ofList (line.toList.drop (name.length + 1)))

/-- The time of the day. -/
def readClock : IO Instant := do
  let now ← Std.Time.Timestamp.now
  let since := now.toNanosecondsSinceUnixEpoch.toInt
  return (Instant.of? (since.fdiv 1000000000) (since.fmod 1000000000).toNat).getD .epoch

/-- What the file at a path is, if there is one. -/
def readKind (path : Path) : IO (Option FileKind) := do
  try
    match (← (← IO.FS.realPath path).metadata).type with
    | .dir => return some .directory
    | .file => return some .regular
    | _ => return some .fifo
  catch _ => return none

/-- A host that has what the machine has at a path. Somebody reads each pipe. -/
def fetch (host : Host) (path : Path) : IO Host := do
  match ← readKind path with
  | none => return host
  | some .regular =>
    let content ← IO.FS.readBinFile path
    return ((Host.put path fun n => { n with bytes := content.toList }).run host).2
  | some kind => return ((Host.put path fun n => { n with kind, readers := 1 }).run host).2

/-- The content of the file at a path. -/
def contentAt (host : Host) (path : Path) : Bytes :=
  match host.files.find path with
  | .ok id => (host.files.node id).bytes
  | .error _ => []

/-- Adds bytes to the file at a path. -/
def append (path : Path) (bytes : Bytes) : IO Unit := do
  if ¬ bytes.isEmpty then
    let handle ← IO.FS.Handle.mk path .append
    handle.write bytes.toByteArray
    handle.flush

/-- Prints what a command leaves. -/
def finish (output : ProgramOutput) : IO UInt32 := do
  (← IO.getStdout).putStr output.stdout
  (← IO.getStderr).putStr output.stderr
  return UInt32.ofNat (output.code % 256).toNat

/-! ## The monitor -/

/-- Writes what has been logged and exported. Gives the host without the log. -/
def flush (before after : Host) (journal : Option Path) : IO Host := do
  for line in after.log do
    (← IO.getStderr).putStrLn line.render
  if let some path := journal then
    append path ((contentAt after path).drop (contentAt before path).length)
  return { after with log := [] }

/-- The processes of the jobs that the machine has. -/
def readProcesses (m : Monitor) : IO (List Nat) := do
  let pids := m.registry.table.entries.flatMap (·.pids)
  pids.filterMapM fun pid => do
    return if (← readKind ("/proc/" ++ signedDecimal pid.toInt)).isSome then some pid.toInt.toNat
      else none

/-- Reads the bytes of a line. -/
partial def readLine (handle : IO.FS.Handle) (line : Bytes) : IO Bytes := do
  let byte := (← handle.read 1).toList
  if byte.isEmpty ∨ byte = [newline] then return line ++ byte else readLine handle (line ++ byte)

/-- Takes in line after line. Between them finished jobs are looked for. -/
partial def serve (config : Config) (handle : IO.FS.Handle) (m : Monitor) (host : Host)
    (line : Task (Except IO.Error Bytes)) : IO Unit := do
  let arrival : List MonitorEvent ←
    if ← IO.hasFinished line then
      pure [.arrives (← IO.ofExcept line.get), .reads, .judges, .registers]
    else
      IO.sleep (UInt32.ofNat (config.sweepInterval?.getD 1000).toNat)
      pure []
  let host := { host with processes := ← readProcesses m, time := ← readClock }
  let events := arrival ++ [.sweeps, .exports, .writes]
  let (m, after) := (events.foldlM Monitor.step m).run host
  let host ← flush host after config.exportFile
  serve config handle m host (← if arrival.isEmpty then pure line else IO.asTask (readLine handle []))

/-- Runs the monitor until the process is stopped. -/
def runMonitor (config : Config) (launch : Option Launch) (host : Host) : IO UInt32 := do
  let host ← config.exportFile.toList.foldlM fetch (← fetch host config.channel)
  let fail (failure : Failure) : IO UInt32 := finish { code := 1, stderr := failure.report }
  let start : HostAttempt MonitorError Monitor := do
    let _ ← Host.ask (fun e => .channel config.channel (.unavailable config.channel e))
      (·.find config.channel)
    Monitor.start config launch
  match start.run host with
  | (.error e, _) => fail (e.message :: e.causes)
  | (.ok m, after) =>
    let host ← flush host after config.exportFile
    let handle ← IO.FS.Handle.mk config.channel .readWrite
    serve config handle m host (← IO.asTask (readLine handle []))
    return 0

/-! ## Commands -/

/-- Runs the program. -/
def run (arguments : List String) : IO UInt32 := do
  let environment ← readEnvironment
  let world : ProgramWorld := { environment }
  match readCommandLine arguments with
  | .error e => finish e.output
  | .ok invocation =>
    let host : Host := { time := ← readClock, spawner := fun _ => .error .notPermitted }
    let host ← invocation.configFile.toList.foldlM fetch host
    match loadConfig host.files environment invocation.configFile, invocation.command with
    | .ok config, .run request => runMonitor config request.launch? host
    | .ok config, .submit request =>
      let channel := request.channel.getD config.channel
      let (output, host) := (runProgram arguments world).run (← fetch host channel)
      if output.code = 0 then append channel (contentAt host channel)
      finish output
    | _, _ => finish ((runProgram arguments world).run host).1

end JobMonitor.Program

/-- Runs the program with the arguments of its command line. -/
def main (arguments : List String) : IO UInt32 := JobMonitor.Program.run arguments
