import JobMonitor.Channel.Lock
import JobMonitor.Ingest.Intake

set_option autoImplicit false

/-! # Listening on a channel

A listener owns a channel: it holds the lock, has the reading end open and takes in what arrives.
From the moment it is bound, submitters can connect. -/

namespace JobMonitor

/-- A channel that is listened to. -/
structure Listener where
  lock : ChannelLock
  reader : ChannelReader
  intake : Intake

/-- Takes the lock of a channel and opens its reading end. If that fails the lock is released. -/
def Listener.bind (path : Path) (registry : Registry) (options : IngestOptions) :
    HostAttempt ChannelError Listener := do
  let lock ← ChannelLock.acquire path
  let reader ← Host.orElseDo (ChannelReader.openAt path options.maxFrameBytes) lock.release
  Host.say .info ("Listening for job submissions on " ++ path)
  pure ⟨lock, reader, { options, registry }⟩

/-- Gives up the channel. -/
def Listener.close (l : Listener) : HostAction Unit := do
  l.lock.release
  l.reader.close

end JobMonitor
