import JobMonitor.Channel.Error
import JobMonitor.Files.Host

set_option autoImplicit false

/-! # The lock of a channel

A pipe with two readers would hand each message to only one of them. So whoever wants to read a
channel first takes the lock of a file beside it, and another monitor that wants to read the same
channel is refused. The file names the process that has the lock and stays when the lock is
released. -/

namespace JobMonitor

/-- The lock file of a channel. -/
def lockPath (channel : Path) : Path := channel ++ ".lock"

/-- A lock that is held. -/
structure ChannelLock where
  path : Path
  file : FileId
deriving DecidableEq, Repr

/-- What the lock file of a process holds. -/
def ownerLine (process : Nat) : Bytes := Bytes.ofText (decimal process ++ "\n")

/-- Takes the lock of a channel. -/
def ChannelLock.acquire (channel : Path) : HostAttempt ChannelError ChannelLock := do
  let path := lockPath channel
  Host.makeParents (.unavailable channel) path
  let file ← Host.findOrMake (.unavailable channel) path
  let node ← Host.node file
  if node.locked then throw (.unavailable channel (.lockHeld path))
  if node.kind ≠ .regular then throw (.unavailable channel .invalidArgument)
  let owner := ownerLine (← get).process
  Host.modifyFile file fun n => { n with locked := true, bytes := owner }
  Host.say .debug ("Locked job channel with " ++ path)
  pure ⟨path, file⟩

/-- Releases a lock. -/
def ChannelLock.release (l : ChannelLock) : HostAction Unit :=
  Host.modifyFile l.file fun n => { n with locked := false }

end JobMonitor
