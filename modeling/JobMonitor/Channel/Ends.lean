import JobMonitor.Channel.Error
import JobMonitor.Channel.Store
import JobMonitor.Files.Host

set_option autoImplicit false

/-! # The ends of a channel

A job channel is a pipe with a name. The monitor has the reading end and keeps a writing end open
as well, so that the stream does not end when a writer leaves. A writing end is refused while
nobody reads. What is written at once arrives in one piece. -/

namespace JobMonitor

/-! ## The pipe -/

/-- The most bytes that arrive in one piece. -/
def atomicWriteBytes : Nat := 4096

/-- Accepts a pipe and nothing else under the name. -/
def expectFifo (path : Path) (kind : FileKind) : HostAttempt ChannelError Unit :=
  if kind = .fifo then pure () else throw (.notAFifo path)

/-- Makes the pipe of a channel, and the directory that it lies in, unless it is there already. -/
def ensureFifo (path : Path) : HostAttempt ChannelError Unit := do
  match (← get).files.kind path with
  | .ok kind => expectFifo path kind
  | .error .notFound =>
    Host.makeParents (.unavailable path) path
    match (← get).files.make path .fifo with
    | .ok files =>
      modify fun h => { h with files }
      Host.say .info ("Created job channel at " ++ path)
    | .error .alreadyExists =>
      let kind ← Host.ask (.unavailable path) (·.kind path)
      expectFifo path kind
    | .error e => throw (.unavailable path e)
  | .error e => throw (.unavailable path e)

/-! ## Reading -/

/-- The reading end. -/
structure ChannelReader where
  path : Path
  file : FileId
  framer : Framer
  store : Store := {}
deriving DecidableEq, Repr

/-- Opens the reading end and makes the pipe if necessary. -/
def ChannelReader.openAt (path : Path) (limit : Nat) : HostAttempt ChannelError ChannelReader := do
  ensureFifo path
  let file ← Host.ask (.unavailable path) (·.find path)
  Host.modifyFile file fun n => { n with readers := n.readers + 1, writers := n.writers + 1 }
  pure { path, file, framer := { limit } }

/-- The next frame, if one has arrived. -/
def ChannelReader.next (r : ChannelReader) : HostAction (Option Frame × ChannelReader) := do
  let node ← Host.node r.file
  let (frame, framer, store, bytes) := r.framer.pull r.store node.bytes
  Host.modifyFile r.file fun n => { n with bytes }
  pure (frame, { r with framer, store })

/-- Closes the reading end. -/
def ChannelReader.close (r : ChannelReader) : HostAction Unit :=
  Host.modifyFile r.file fun n =>
    { n with readers := n.readers - 1, writers := n.writers - 1 }.settle

/-! ## Writing -/

/-- The writing end. -/
structure ChannelWriter where
  path : Path
  file : FileId
deriving DecidableEq, Repr

/-- What stands in the way of writing to a file as to a pipe. -/
def FileNode.refusesWriter? (n : FileNode) : Option OsError :=
  match n.kind with
  | .directory => some .isDirectory
  | .regular => some .notAPipe
  | .fifo => if n.readers = 0 then some .noReader else none

/-- Opens the writing end of a pipe that is there and is read. -/
def ChannelWriter.openAt (path : Path) : HostAttempt ChannelError ChannelWriter := do
  let file ← Host.ask (.unavailable path) (·.find path)
  match (← Host.node file).refusesWriter? with
  | some e => throw (.unavailable path e)
  | none =>
    Host.modifyFile file fun n => { n with writers := n.writers + 1 }
    pure ⟨path, file⟩

/-- Writes a frame in one piece. -/
def ChannelWriter.write (w : ChannelWriter) (frame : Bytes) : HostAttempt OsError Unit := do
  if frame.length > atomicWriteBytes then throw (.writeTooLong frame.length atomicWriteBytes)
  if frame = [] then return
  let node ← Host.node w.file
  if node.readers = 0 then throw .brokenPipe
  Host.modifyFile w.file fun n => { n with bytes := n.bytes ++ frame }

/-- Closes the writing end. -/
def ChannelWriter.close (w : ChannelWriter) : HostAction Unit :=
  Host.modifyFile w.file fun n => { n with writers := n.writers - 1 }.settle

end JobMonitor
