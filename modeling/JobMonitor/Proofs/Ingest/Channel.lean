import JobMonitor.Command.Basic
import JobMonitor.Proofs.Channel.Delivery
import JobMonitor.Proofs.Ingest.Intake
import JobMonitor.Proofs.Job.Record

set_option autoImplicit false

/-! # Submitting over the channel

Clients connect to a monitor and submit jobs, in any order, while the monitor reads the channel in
pieces of any size and takes in what it has read (`ChannelRun`). Of what was submitted nothing is lost,
nothing is changed but for the fraction of a second of the creation times, and nothing else is taken
in: the monitor does what it would have done if the submissions had been handed to it one after another
(`channel_transparent`). -/

namespace JobMonitor

/-! ## What happens at the ends of a channel -/

/-- What happens at the ends of a channel. -/
inductive ChannelEvent where
  /-- Somebody connects, who knows the limit of the monitor. -/
  | connect
  /-- A client submits the job of a request. -/
  | submit (client : Nat) (request : SubmitRequest) (now : Instant)
  | disconnect (client : Nat)
  /-- So many of the bytes that wait are read. -/
  | read (count : Nat)
  /-- The monitor handles the next frame of the bytes that have been read, if they make one. -/
  | take (now : Instant)
  /-- The monitor reads as much as its store has room for until the bytes make a frame, and handles
      it. -/
  | receive (now : Instant)

/-- A frame that the monitor has handled, and what became of it. -/
structure HandledFrame where
  frame : Frame
  outcome : IngestOutcome

/-- A monitor that listens on a channel, those who are connected to it, and what has happened. -/
structure ChannelRun where
  host : Host
  listener : Listener
  clients : List SubmissionClient := []
  /-- The submissions that have succeeded, in the order in which they were written. -/
  sent : List Submission := []
  /-- The frames that have been handled, in order. -/
  handled : List HandledFrame := []

/-- Somebody connects, if the channel can be opened. -/
def ChannelRun.connect (r : ChannelRun) : ChannelRun :=
  let limit := r.listener.intake.options.maxFrameBytes
  match HostAttempt.runOn (SubmissionClient.connect r.listener.reader.path limit) r.host with
  | (.ok client, host) => { r with host, clients := r.clients ++ [client] }
  | (.error _, host) => { r with host }

/-- A client submits a job. -/
def ChannelRun.submit (r : ChannelRun) (client : SubmissionClient) (s : Submission) : ChannelRun :=
  match HostAttempt.runOn (client.submit s) r.host with
  | (.ok (), host) => { r with host, sent := r.sent ++ [s] }
  | (.error _, host) => { r with host }

/-- The client of a number disconnects. -/
def ChannelRun.disconnect (r : ChannelRun) (number : Nat) (client : SubmissionClient) : ChannelRun :=
  { r with host := (client.close.run r.host).2, clients := r.clients.eraseIdx number }

/-- The reader has changed. -/
def ChannelRun.withReader (r : ChannelRun) (reader : ChannelReader) (host : Host) : ChannelRun :=
  { r with host, listener := { r.listener with reader } }

/-- Bytes are read. -/
def ChannelRun.read (r : ChannelRun) (count : Nat) : ChannelRun :=
  let reader := r.listener.reader
  let bytes := (r.host.files.node reader.file).bytes
  r.withReader { reader with framer := reader.framer.feed (bytes.take count) }
    (r.host.withFile reader.file fun n => { n with bytes := bytes.drop count })

/-- The monitor handles a frame, if there is one. -/
def ChannelRun.handle (r : ChannelRun) (now : Instant) : Option Frame → ChannelRun
  | none => r
  | some frame =>
    let handled := r.listener.intake.handle frame now
    { r with
      listener := { r.listener with intake := handled.intake }
      handled := r.handled ++ [⟨frame, handled.outcome⟩] }

/-- The monitor handles the next frame of what has been read. -/
def ChannelRun.take (r : ChannelRun) (now : Instant) : ChannelRun :=
  let (frame, framer) := r.listener.reader.framer.next
  (r.withReader { r.listener.reader with framer } r.host).handle now frame

/-- The monitor reads until there is a frame, and handles it. -/
def ChannelRun.receive (r : ChannelRun) (now : Instant) : ChannelRun :=
  let ((frame, reader), host) := r.listener.reader.next.run r.host
  (r.withReader reader host).handle now frame

/-- Something happens. A client that is not there does nothing. -/
def ChannelRun.step (r : ChannelRun) : ChannelEvent → ChannelRun
  | .connect => r.connect
  | .submit number request now =>
    match r.clients[number]? with
    | some client => r.submit client (request.submission now)
    | none => r
  | .disconnect number =>
    match r.clients[number]? with
    | some client => r.disconnect number client
    | none => r
  | .read count => r.read count
  | .take now => r.take now
  | .receive now => r.receive now

/-- One thing happens after another. -/
def ChannelRun.steps (r : ChannelRun) (events : List ChannelEvent) : ChannelRun :=
  events.foldl ChannelRun.step r

/-! ## What a run has done -/

/-- The text that is sent for a submission. -/
def Submission.payload (s : Submission) : Bytes := s.toRecord.bytes

/-- The monitor has handled a message for each of these submissions, and has done with them what it
    would have done with the submissions themselves, whenever they had been handed to it. -/
structure ChannelRun.HasTakenIn (start : Table) (policy : DuplicatePolicy) (r : ChannelRun)
    (taken : List Submission) : Prop where
  frames : r.handled.map HandledFrame.frame = taken.map fun s => .message s.payload
  direct : ∀ judged : List (Submission × Instant), judged.map Prod.fst = taken.map Submission.sent →
    r.handled.map HandledFrame.outcome = (start.takeInAll policy judged).1 ∧
      r.listener.intake.registry.table.undated = (start.takeInAll policy judged).2.undated
  counts : r.listener.intake.counts
    = (r.handled.map HandledFrame.outcome).foldl IngestCounts.record {}
  noneDropped : r.listener.intake.counts.malformed = 0 ∧ r.listener.intake.counts.discarded = 0

/-- What is known in the middle of a run: these submissions have been taken in, each at its time, and
    these others have been written and wait. -/
structure ChannelRun.Tracks (start : Table) (options : IngestOptions) (r : ChannelRun)
    (taken : List (Submission × Instant)) (waiting : List Submission) : Prop where
  serves : r.listener.reader.Serves options.maxFrameBytes r.clients r.host
    (waiting.map Submission.payload)
  options_eq : r.listener.intake.options = options
  sent_eq : r.sent = taken.map Prod.fst ++ waiting
  travels : ∀ s ∈ waiting, s.createdAt.Travels
  frames : r.handled.map HandledFrame.frame = taken.map fun s => .message s.1.payload
  judged : start.takeInAll options.duplicatePolicy (taken.map fun s => (s.1.sent, s.2))
    = (r.handled.map HandledFrame.outcome, r.listener.intake.registry.table)
  counts : r.listener.intake.counts
    = (r.handled.map HandledFrame.outcome).foldl IngestCounts.record {}

variable {start : Table} {options : IngestOptions} {r : ChannelRun}
  {taken : List (Submission × Instant)} {waiting : List Submission}

theorem ChannelRun.Tracks.hasTakenIn (h : r.Tracks start options taken waiting) :
    r.HasTakenIn start options.duplicatePolicy (taken.map Prod.fst) where
  frames := by rw [h.frames, List.map_map]; rfl
  direct := by
    intro judged hjudged
    have hsame : (taken.map fun s => (s.1.sent, s.2)).map Prod.fst = judged.map Prod.fst := by
      rw [hjudged, List.map_map, List.map_map]
      rfl
    have hdirect := Table.takeInAll_undated options.duplicatePolicy (Eq.refl start.undated) hsame
    rwa [h.judged] at hdirect
  counts := h.counts
  noneDropped := by
    have hcounts := Table.takeInAll_counts options.duplicatePolicy start
      (taken.map fun s => (s.1.sent, s.2)) {}
    rw [h.judged] at hcounts
    rw [h.counts]
    exact hcounts

/-! ## What each event keeps -/

/-- Nothing has been submitted when a listener has just been bound. -/
theorem Listener.tracks_of_bind {path : Path} {registry : Registry} {host host' : Host} {l : Listener}
    (hbind : HostAttempt.runOn (Listener.bind path registry options) host = (.ok l, host'))
    (hempty : (host'.files.node l.reader.file).bytes = []) :
    ChannelRun.Tracks registry.table options { host := host', listener := l } [] [] where
  serves := Listener.serves_of_bind hbind hempty
  options_eq := by rw [(Listener.of_bind hbind).2.2.1]
  sent_eq := rfl
  travels := fun _ h => absurd h List.not_mem_nil
  frames := rfl
  judged := by rw [(Listener.of_bind hbind).2.2.1]; rfl
  counts := by rw [(Listener.of_bind hbind).2.2.1]; rfl

theorem ChannelRun.Tracks.connect (h : r.Tracks start options taken waiting) :
    r.connect.Tracks start options taken waiting := by
  have hserves := h.serves.connect
  rw [ChannelRun.connect, h.options_eq]
  rcases hrun : HostAttempt.runOn
    (SubmissionClient.connect r.listener.reader.path options.maxFrameBytes) r.host with ⟨_ | _, host⟩
  · rw [hrun] at hserves
    exact { h with serves := hserves }
  · rw [hrun] at hserves
    exact { h with serves := hserves }

/-- A client that disconnects leaves those who are still there, and what it has written. -/
theorem ChannelRun.Tracks.disconnect (h : r.Tracks start options taken waiting) (number : Nat)
    {client : SubmissionClient} (hclient : client ∈ r.clients) :
    (r.disconnect number client).Tracks start options taken waiting := by
  have hserves := h.serves.close hclient
  exact { h with serves := {
    hserves with
    connected := fun c hc => hserves.connected c (List.mem_of_mem_eraseIdx hc)
    isRead := fun _ => hserves.isRead (List.ne_nil_of_mem hclient) } }

/-- What is asked for on the command line is a submission that arrives as it was sent. -/
theorem SubmitRequest.travels_submission (request : SubmitRequest) (now : Instant) :
    (request.submission now).createdAt.Travels := by
  show (request.createdAt now).Travels
  unfold createdAt
  split
  · exact CreationTime.travels_unset
  · split
    · exact CreationTime.travels_text _
    · exact CreationTime.travels_valid now

/-- A submission that has succeeded waits behind the others. -/
theorem ChannelRun.Tracks.submit (h : r.Tracks start options taken waiting)
    {client : SubmissionClient} (hclient : client ∈ r.clients) {s : Submission}
    (hs : s.createdAt.Travels) :
    ∃ waiting', (r.submit client s).Tracks start options taken waiting' := by
  have hserves := h.serves.submitBytes hclient s.toRecord.isBlank_bytes s.toRecord.getLast?_bytes
  rw [ChannelRun.submit, SubmissionClient.submit, SubmissionClient.submitRecord]
  rcases hrun : HostAttempt.runOn (client.submitBytes s.toRecord.bytes) r.host with ⟨_ | _, host⟩
  · rw [hrun] at hserves
    exact ⟨waiting, { h with serves := hserves }⟩
  · rw [hrun] at hserves
    refine ⟨waiting ++ [s], { h with serves := ?_, sent_eq := ?_, travels := ?_ }⟩
    · rw [List.map_append]
      exact hserves
    · rw [h.sent_eq, List.append_assoc]
    · intro s' hs'
      rcases List.mem_append.1 hs' with hs' | hs'
      · exact h.travels s' hs'
      · rwa [List.mem_singleton.1 hs']

theorem ChannelRun.Tracks.read (h : r.Tracks start options taken waiting) (count : Nat) :
    (r.read count).Tracks start options taken waiting :=
  { h with serves := h.serves.feed count }

/-- The first submission that waits is taken in when its message is handled. -/
theorem ChannelRun.Tracks.handle {s : Submission} (h : r.Tracks start options taken (s :: waiting))
    {reader : ChannelReader} {host : Host} (now : Instant)
    (hserves : reader.Serves options.maxFrameBytes r.clients host (waiting.map Submission.payload)) :
    ((r.withReader reader host).handle now (some (.message s.payload))).Tracks start options
      (taken ++ [(s, now)]) waiting := by
  have hdecode : Submission.decode s.payload = .ok s.sent :=
    Submission.decode_toRecord (h.travels s List.mem_cons_self)
  obtain ⟨houtcome, htable, hcounts, hoptions⟩ := r.listener.intake.ingest_of_decode now hdecode
  rw [h.options_eq] at houtcome htable hcounts hoptions
  have hrun : (r.withReader reader host).handle now (some (.message s.payload)) =
      { r with
        host
        listener := ⟨r.listener.lock, reader, (r.listener.intake.ingest s.payload now).intake⟩
        handled := r.handled
          ++ [⟨.message s.payload, (r.listener.intake.ingest s.payload now).outcome⟩] } := rfl
  rw [hrun]
  -- From here on it matters no more how the intake came to its outcome.
  generalize r.listener.intake.ingest s.payload now = handled at houtcome htable hcounts hoptions ⊢
  refine ⟨hserves, hoptions, ?_, fun s' hs' => h.travels s' (.tail _ hs'), ?_, ?_, ?_⟩
  · rw [h.sent_eq, List.map_append, List.append_assoc]
    rfl
  · rw [List.map_append, List.map_append, h.frames]
    rfl
  · rw [List.map_append, List.map_append, List.map_singleton, List.map_singleton,
      Table.takeInAll_concat, h.judged, htable, houtcome]
  · rw [List.map_append, List.foldl_append, ← h.counts, List.map_singleton, houtcome]
    exact hcounts

theorem ChannelRun.Tracks.take (h : r.Tracks start options taken waiting) (now : Instant) :
    ∃ taken' waiting', (r.take now).Tracks start options taken' waiting' := by
  have hserves := h.serves.take
  rw [ChannelRun.take]
  rcases hnext : r.listener.reader.framer.next with ⟨_ | frame, framer⟩
  · rw [hnext] at hserves
    exact ⟨taken, waiting, { h with serves := hserves }⟩
  · rw [hnext] at hserves
    obtain ⟨payload, rest, hwaiting, rfl, hserves⟩ := hserves
    cases waiting with
    | nil => exact absurd hwaiting (List.cons_ne_nil _ _).symm
    | cons s waiting =>
      obtain ⟨rfl, rfl⟩ := List.cons.inj hwaiting
      exact ⟨_, _, h.handle now hserves⟩

/-- A turn of the reader takes in the first submission that waits. -/
theorem ChannelRun.Tracks.receive (h : r.Tracks start options taken waiting) (now : Instant) :
    (r.receive now).sent = r.sent ∧
      ∃ taken', (r.receive now).Tracks start options taken' waiting.tail := by
  obtain ⟨hframe, hserves⟩ := h.serves.next
  rw [ChannelRun.receive]
  rcases hrun : r.listener.reader.next.run r.host with ⟨⟨frame, reader⟩, host⟩
  rw [hrun] at hframe hserves
  cases waiting with
  | nil =>
    obtain rfl : frame = none := hframe
    exact ⟨rfl, taken, { h with serves := hserves }⟩
  | cons s waiting =>
    obtain rfl : frame = some (.message s.payload) := hframe
    exact ⟨rfl, _, h.handle now hserves⟩

/-! ## Runs -/

theorem ChannelRun.Tracks.step (h : r.Tracks start options taken waiting) (e : ChannelEvent) :
    ∃ taken' waiting', (r.step e).Tracks start options taken' waiting' := by
  cases e with
  | connect => exact ⟨taken, waiting, h.connect⟩
  | submit number request now =>
    rw [ChannelRun.step]
    cases hclient : r.clients[number]? with
    | none => exact ⟨taken, waiting, h⟩
    | some client =>
      exact ⟨taken, h.submit (List.mem_of_getElem? hclient) (request.travels_submission now)⟩
  | disconnect number =>
    rw [ChannelRun.step]
    cases hclient : r.clients[number]? with
    | none => exact ⟨taken, waiting, h⟩
    | some client => exact ⟨taken, waiting, h.disconnect number (List.mem_of_getElem? hclient)⟩
  | read count => exact ⟨taken, waiting, h.read count⟩
  | take now => exact h.take now
  | receive now => exact ⟨_, _, (h.receive now).2.choose_spec⟩

theorem ChannelRun.Tracks.steps (h : r.Tracks start options taken waiting)
    (events : List ChannelEvent) :
    ∃ taken' waiting', (r.steps events).Tracks start options taken' waiting' := by
  induction events generalizing r taken waiting with
  | nil => exact ⟨taken, waiting, h⟩
  | cons e rest ih =>
    obtain ⟨taken', waiting', hstep⟩ := h.step e
    exact ih hstep

/-- After as many turns of the reader as there are submissions that wait, none waits any more. -/
theorem ChannelRun.Tracks.receiveAll (h : r.Tracks start options taken waiting) (now : Instant)
    {turns : Nat} (hturns : waiting.length ≤ turns) :
    (r.steps (List.replicate turns (.receive now))).sent = r.sent ∧
      ∃ taken', (r.steps (List.replicate turns (.receive now))).Tracks start options taken' [] := by
  induction turns generalizing r taken waiting with
  -- A turn when nothing waits does nothing, so there may be more of them than are needed.
  | zero =>
    obtain rfl := List.eq_nil_of_length_eq_zero (Nat.le_zero.1 hturns)
    exact ⟨rfl, taken, h⟩
  | succ turns ih =>
    obtain ⟨hsent, taken', hnext⟩ := h.receive now
    have htail : waiting.tail.length ≤ turns := by
      rw [List.length_tail]
      omega
    obtain ⟨hsent', hrest⟩ := ih hnext htail
    exact ⟨hsent'.trans hsent, hrest⟩

/-- A client that is connected can submit every job whose text is not too long for the monitor or for
    the pipe. -/
theorem ChannelRun.submit_ok_iff {path : Path} {registry : Registry} {host host' : Host} {l : Listener}
    (hbind : HostAttempt.runOn (Listener.bind path registry options) host = (.ok l, host'))
    (hempty : (host'.files.node l.reader.file).bytes = []) (events : List ChannelEvent)
    (request : SubmitRequest) (now : Instant) :
    let run := ChannelRun.steps { host := host', listener := l } events
    ∀ client ∈ run.clients,
      ((HostAttempt.runOn (client.submit (request.submission now)) run.host).1 = .ok () ↔
        (request.submission now).payload.length ≤ min options.maxFrameBytes maxPayloadBytes) := by
  intro run client hclient
  obtain ⟨taken, waiting, hrun⟩ := (Listener.tracks_of_bind hbind hempty).steps events
  have hline : newline ∉ (request.submission now).payload :=
    (request.submission now).toRecord.newline_not_mem_bytes
  have hok := hrun.serves.submitBytes_ok_iff hclient (request.submission now).payload
  exact hok.trans ⟨fun h => h.1, fun h => ⟨h, hline⟩⟩

/-- **The channel is transparent.** However many clients connect to a monitor, whatever they submit in
    whatever order, and however the monitor reads the channel: it has at all times taken in the first
    of the submissions that have succeeded, and when its reader has had a turn for each of them it has
    taken in all of them. -/
theorem channel_transparent {path : Path} {registry : Registry} {host host' : Host} {l : Listener}
    (hbind : HostAttempt.runOn (Listener.bind path registry options) host = (.ok l, host'))
    (hempty : (host'.files.node l.reader.file).bytes = []) (events : List ChannelEvent)
    (now : Instant) :
    let run := ChannelRun.steps { host := host', listener := l } events
    let later := run.steps (List.replicate run.sent.length (.receive now))
    (∃ taken waiting, run.sent = taken ++ waiting ∧
        run.HasTakenIn registry.table options.duplicatePolicy taken) ∧
      later.sent = run.sent ∧
      later.HasTakenIn registry.table options.duplicatePolicy run.sent := by
  intro run later
  obtain ⟨taken, waiting, hrun⟩ := (Listener.tracks_of_bind hbind hempty).steps events
  have hturns : waiting.length ≤ run.sent.length := by
    rw [hrun.sent_eq, List.length_append]
    exact Nat.le_add_left _ _
  obtain ⟨hsent, taken', hlater⟩ := hrun.receiveAll now hturns
  refine ⟨⟨_, waiting, hrun.sent_eq, hrun.hasTakenIn⟩, hsent, ?_⟩
  have hall : taken'.map Prod.fst = run.sent := by
    rw [← hsent, hlater.sent_eq, List.append_nil]
  rw [← hall]
  exact hlater.hasTakenIn

/-- Two clients submit the same job. The second submission is written when the first has been read in
    part, and waits until the reader has had its turns. -/
def twoClients : List ChannelEvent := [
  .connect, .connect,
  .submit 1 ⟨7, [1], none, false, false, none⟩ .epoch, .read 5, .take .epoch,
  .submit 0 ⟨7, [1], none, false, false, none⟩ .epoch, .receive .epoch]

theorem channel_transparent_two_clients :
    ∃ l host', HostAttempt.runOn (Listener.bind "jobs.fifo" (Registry.new 1) {}) {} = (.ok l, host') ∧
      (host'.files.node l.reader.file).bytes = [] ∧
      let run := ChannelRun.steps { host := host', listener := l } twoClients
      let later := run.steps (List.replicate run.sent.length (.receive .epoch))
      (run.sent.length = 2 ∧ run.handled.length = 1) ∧
        later.HasTakenIn (Registry.new 1).table .reject run.sent := by
  obtain ⟨l, host', hbind, hempty, hlengths⟩ : ∃ l host',
      HostAttempt.runOn (Listener.bind "jobs.fifo" (Registry.new 1) {}) {} = (.ok l, host') ∧
      (host'.files.node l.reader.file).bytes = [] ∧
      let run := ChannelRun.steps { host := host', listener := l } twoClients
      run.sent.length = 2 ∧ run.handled.length = 1 := ⟨_, _, rfl, rfl, by decide +kernel⟩
  exact ⟨l, host', hbind, hempty, hlengths,
    (channel_transparent hbind hempty twoClients .epoch).2.2⟩

end JobMonitor
