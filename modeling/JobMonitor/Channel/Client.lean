import JobMonitor.Channel.Ends
import JobMonitor.Job.Submission

set_option autoImplicit false

/-! # Submitting jobs

A submitter connects to the channel of a monitor that is running and writes one line for each
submission. A submission arrives whole or not at all: it is refused before anything is written if
it is too long to be written at once or is not a single line. -/

namespace JobMonitor

/-- The longest payload that can be written at once with its delimiter. -/
def maxPayloadBytes : Nat := atomicWriteBytes - 1

/-- Why a submission fails. -/
inductive SubmissionError where
  | channel (e : ChannelError)
  | frameTooLarge (length limit : Nat)
  | invalidFrame (e : FrameError)
  | writeFailed (path : Path) (cause : OsError)
deriving DecidableEq, Repr

/-- The wording of an error. -/
def SubmissionError.message : SubmissionError → String
  | .channel e => e.message
  | .frameTooLarge length limit =>
    "submission of " ++ decimal length ++ " bytes exceeds the " ++ decimal limit ++ " byte limit"
  | .invalidFrame e => "submission is not a single frame: " ++ e.message
  | .writeFailed path cause => "failed to write to job channel " ++ path ++ ": " ++ cause.message

/-- The wording of an error and of what is behind it. What the channel says stands for itself. -/
def SubmissionError.chain (e : SubmissionError) : List String :=
  e.message :: match e with
    | .channel e => (e.cause?.map OsError.message).toList
    | .frameTooLarge .. => []
    | .invalidFrame e => [e.message]
    | .writeFailed _ cause => [cause.message]

/-- No monitor is listening. -/
def SubmissionError.isUnavailable : SubmissionError → Bool
  | .channel e => e.isUnavailable
  | _ => false

/-- A connection to a monitor. -/
structure SubmissionClient where
  writer : ChannelWriter
  /-- The longest payload that is sent. -/
  limit : Nat
deriving DecidableEq, Repr

/-- Connects to a monitor whose own limit may be lower. -/
def SubmissionClient.connect (path : Path) (limit : Nat := maxPayloadBytes) :
    HostAttempt SubmissionError SubmissionClient :=
  ExceptT.mk do
    match ← (ChannelWriter.openAt path).run with
    | .ok writer => pure (.ok ⟨writer, min limit maxPayloadBytes⟩)
    | .error e => pure (.error (.channel e))

/-- The line of a payload, or why it is not sent. -/
def SubmissionClient.frame (c : SubmissionClient) (payload : Bytes) : Except SubmissionError Bytes :=
  if payload.length > c.limit then .error (.frameTooLarge payload.length c.limit)
  else
    match encodeFrame c.limit payload with
    | .ok frame => .ok frame
    | .error e => .error (.invalidFrame e)

/-- Sends a payload. -/
def SubmissionClient.submitBytes (c : SubmissionClient) (payload : Bytes) :
    HostAttempt SubmissionError Unit := do
  let frame ← c.frame payload
  match ← ExceptT.lift (c.writer.write frame).run with
  | .ok () => Host.say .debug ("Submitted " ++ decimal frame.length ++ " bytes to " ++ c.writer.path)
  | .error e => throw (.writeFailed c.writer.path e)

/-- Sends a record, which may lack fields. -/
def SubmissionClient.submitRecord (c : SubmissionClient) (r : SubmissionRecord) :
    HostAttempt SubmissionError Unit :=
  c.submitBytes r.bytes

/-- Sends a submission. -/
def SubmissionClient.submit (c : SubmissionClient) (s : Submission) :
    HostAttempt SubmissionError Unit :=
  c.submitRecord s.toRecord

/-- Disconnects. -/
def SubmissionClient.close (c : SubmissionClient) : HostAction Unit := c.writer.close

/-- Connects, sends one submission and disconnects. -/
def submitOnce (path : Path) (s : Submission) : HostAttempt SubmissionError Unit := do
  let client ← SubmissionClient.connect path
  Host.orElseDo (client.submit s) client.close
  client.close

end JobMonitor
