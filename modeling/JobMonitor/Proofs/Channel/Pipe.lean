import JobMonitor.Channel.Client
import JobMonitor.Ingest.Listener
import JobMonitor.Proofs.Files.Host

set_option autoImplicit false

/-! # What listeners and submitters do to the pipe

A listener that has been bound reads the file that the path of its channel leads to, and who connects
to the channel gets the same file. A submission that succeeds puts its line behind what waits in the
pipe, and one that fails leaves everything as it was. -/

namespace JobMonitor

/-! ## Listening -/

theorem ChannelReader.of_openAt {path : Path} {limit : Nat} {h h' : Host} {r : ChannelReader}
    (hok : HostAttempt.runOn (ChannelReader.openAt path limit) h = (.ok r, h')) :
    r.path = path ∧ r.framer = { limit } ∧ h'.files.find path = .ok r.file := by
  obtain ⟨-, h₁, -, hok⟩ := HostAttempt.exists_of_runOn_bind hok
  obtain ⟨file, h₂, hfind, hok⟩ := HostAttempt.exists_of_runOn_bind hok
  rw [HostAttempt.runOn_ask] at hfind
  rw [HostAttempt.runOn_modifyFile_bind, HostAttempt.runOn_pure] at hok
  obtain ⟨hresult, rfl⟩ := Prod.mk.inj hfind
  obtain ⟨hr, rfl⟩ := Prod.mk.inj hok
  obtain rfl := Except.ok.inj hr
  have hsame := h₁.files.find_modify file
    (fun n => { n with readers := n.readers + 1, writers := n.writers + 1 }) fun _ => rfl
  refine ⟨rfl, rfl, (congrFun hsame path).trans ?_⟩
  cases hfile : h₁.files.find path with
  | error e =>
    rw [hfile] at hresult
    have hfail : (.error (.unavailable path e) : Except ChannelError FileId) = .ok file := hresult
    cases hfail
  | ok found =>
    rw [hfile] at hresult
    rw [Except.ok.inj hresult]

/-- A listener that has been bound reads the file at the path of the channel, with nothing read
    before. -/
theorem Listener.of_bind {path : Path} {registry : Registry} {options : IngestOptions} {h h' : Host}
    {l : Listener} (hok : HostAttempt.runOn (Listener.bind path registry options) h = (.ok l, h')) :
    l.reader.path = path ∧ l.reader.framer = { limit := options.maxFrameBytes } ∧
      l.intake = { options, registry } ∧ h'.files.find path = .ok l.reader.file := by
  obtain ⟨lock, h₁, -, hok⟩ := HostAttempt.exists_of_runOn_bind hok
  obtain ⟨reader, h₂, hopen, hok⟩ := HostAttempt.exists_of_runOn_bind hok
  obtain ⟨hpath, hframer, hfind⟩ := ChannelReader.of_openAt (HostAttempt.runOn_of_orElseDo hopen)
  rw [HostAttempt.runOn_say_bind, HostAttempt.runOn_pure] at hok
  obtain ⟨hl, rfl⟩ := Prod.mk.inj hok
  obtain rfl := Except.ok.inj hl
  exact ⟨hpath, hframer, rfl, hfind⟩

/-! ## Connecting -/

/-- Writing to a pipe is refused while nobody reads. -/
theorem FileNode.readers_of_refusesWriter? {n : FileNode} (h : n.refusesWriter? = none) :
    n.readers ≠ 0 := by
  intro hzero
  rw [refusesWriter?] at h
  split at h
  · cases h
  · cases h
  · rw [if_pos hzero] at h
    cases h

theorem ChannelWriter.runOn_openAt (path : Path) (h : Host) :
    HostAttempt.runOn (ChannelWriter.openAt path) h = match h.files.find path with
      | .error e => (.error (.unavailable path e), h)
      | .ok file => match (h.files.node file).refusesWriter? with
        | some e => (.error (.unavailable path e), h)
        | none => (.ok ⟨path, file⟩, h.withFile file fun n => { n with writers := n.writers + 1 }) := by
  rw [openAt, HostAttempt.runOn_bind, HostAttempt.runOn_ask]
  cases h.files.find path with
  | error e => rfl
  | ok file =>
    have hfound : Except.mapError (ChannelError.unavailable path) (.ok file) = .ok file := rfl
    simp only [hfound, HostAttempt.runOn_node_bind]
    cases (h.files.node file).refusesWriter? with
    | some e => rfl
    | none => rfl

theorem SubmissionClient.runOn_connect (path : Path) (limit : Nat) (h : Host) :
    HostAttempt.runOn (SubmissionClient.connect path limit) h
      = match HostAttempt.runOn (ChannelWriter.openAt path) h with
        | (.ok writer, h') => (.ok ⟨writer, min limit maxPayloadBytes⟩, h')
        | (.error e, h') => (.error (.channel e), h') := by
  rcases hrun : HostAttempt.runOn (ChannelWriter.openAt path) h with ⟨result, h'⟩
  have hrun' : (ChannelWriter.openAt path).run.run h = (result, h') := hrun
  rw [HostAttempt.runOn, connect, ExceptT.run_mk, StateT.run_bind, hrun']
  cases result <;> rfl

/-- A connection is to the file at the path of the channel, which somebody reads, and what it is told is
    only that there is one writer more. -/
theorem SubmissionClient.connect_cases (path : Path) (limit : Nat) (h : Host) :
    (∃ e, HostAttempt.runOn (SubmissionClient.connect path limit) h = (.error e, h)) ∨
      ∃ file, h.files.find path = .ok file ∧ (h.files.node file).readers ≠ 0 ∧
        HostAttempt.runOn (SubmissionClient.connect path limit) h
          = (.ok ⟨⟨path, file⟩, min limit maxPayloadBytes⟩,
            h.withFile file fun n => { n with writers := n.writers + 1 }) := by
  rw [SubmissionClient.runOn_connect, ChannelWriter.runOn_openAt]
  cases h.files.find path with
  | error e => exact .inl ⟨_, rfl⟩
  | ok file =>
    cases hrefuses : (h.files.node file).refusesWriter? with
    | some e =>
      simp only [hrefuses]
      exact .inl ⟨_, rfl⟩
    | none =>
      simp only [hrefuses]
      exact .inr ⟨file, rfl, FileNode.readers_of_refusesWriter? hrefuses, rfl⟩

/-! ## Submitting -/

theorem ChannelWriter.runOn_write (w : ChannelWriter) (frame : Bytes) (h : Host) :
    HostAttempt.runOn (w.write frame) h
      = if frame.length > atomicWriteBytes then
          (.error (.writeTooLong frame.length atomicWriteBytes), h)
        else if frame = [] then (.ok (), h)
        else if (h.files.node w.file).readers = 0 then (.error .brokenPipe, h)
        else (.ok (), h.withFile w.file fun n => { n with bytes := n.bytes ++ frame }) := by
  rw [write]
  split
  · rfl
  · split
    · rfl
    · rw [HostAttempt.runOn_node_bind]
      split <;> rfl

/-- The line that reports a submission. -/
def SubmissionClient.submitted (c : SubmissionClient) (frame : Bytes) : LogLine where
  level := .debug
  message := "Submitted " ++ decimal frame.length ++ " bytes to " ++ c.writer.path

variable {c : SubmissionClient} {payload frame : Bytes} {h h' : Host}

theorem SubmissionClient.runOn_submitBytes_of_refused {e : SubmissionError}
    (hframe : c.frame payload = .error e) :
    HostAttempt.runOn (c.submitBytes payload) h = (.error e, h) := by
  rw [submitBytes, hframe]
  rfl

theorem SubmissionClient.runOn_submitBytes_of_failed {e : OsError}
    (hframe : c.frame payload = .ok frame)
    (hwrite : HostAttempt.runOn (c.writer.write frame) h = (.error e, h')) :
    HostAttempt.runOn (c.submitBytes payload) h = (.error (.writeFailed c.writer.path e), h') := by
  rw [submitBytes, hframe, HostAttempt.runOn_bind]
  show HostAttempt.runOn (ExceptT.lift (c.writer.write frame).run >>= _) h = _
  rw [HostAttempt.runOn_bind, HostAttempt.runOn_lift, hwrite]
  rfl

theorem SubmissionClient.runOn_submitBytes_of_written (hframe : c.frame payload = .ok frame)
    (hwrite : HostAttempt.runOn (c.writer.write frame) h = (.ok (), h')) :
    HostAttempt.runOn (c.submitBytes payload) h = (.ok (), h'.withLine (c.submitted frame)) := by
  rw [submitBytes, hframe, HostAttempt.runOn_bind]
  show HostAttempt.runOn (ExceptT.lift (c.writer.write frame).run >>= _) h = _
  rw [HostAttempt.runOn_bind, HostAttempt.runOn_lift, hwrite]
  rfl

/-- The payload is looked at before anything is written. The limit of a client leaves room for the
    delimiter in what a pipe takes at once, so its length is only ever found too long by the client. -/
theorem SubmissionClient.runOn_submitBytes (c : SubmissionClient) (hlimit : c.limit ≤ maxPayloadBytes)
    (payload : Bytes) (h : Host) :
    HostAttempt.runOn (c.submitBytes payload) h
      = if c.limit < payload.length then (.error (.frameTooLarge payload.length c.limit), h)
        else if newline ∈ payload then (.error (.invalidFrame .containsDelimiter), h)
        else if (h.files.node c.writer.file).readers = 0 then
          (.error (.writeFailed c.writer.path .brokenPipe), h)
        else (.ok (), (h.withFile c.writer.file fun n =>
          { n with bytes := n.bytes ++ (payload ++ [newline]) }).withLine
            (c.submitted (payload ++ [newline]))) := by
  split
  · next hlong => exact SubmissionClient.runOn_submitBytes_of_refused (if_pos hlong)
  · next hfits =>
    split
    · next hmem =>
      have hframe : c.frame payload = .error (.invalidFrame .containsDelimiter) := by
        rw [SubmissionClient.frame, if_neg hfits, encodeFrame, if_pos hmem]
      exact SubmissionClient.runOn_submitBytes_of_refused hframe
    · next hmem =>
      have hframe : c.frame payload = .ok (payload ++ [newline]) := by
        rw [SubmissionClient.frame, if_neg hfits, encodeFrame, if_neg hmem, if_neg hfits]
      have hshort : ¬ (payload ++ [newline]).length > atomicWriteBytes := by
        rw [List.length_append, List.length_singleton]
        rw [maxPayloadBytes] at hlimit
        have : atomicWriteBytes = 4096 := rfl
        omega
      have hwrite := c.writer.runOn_write (payload ++ [newline]) h
      rw [if_neg hshort, if_neg (List.concat_ne_nil _ _)] at hwrite
      split
      · next hreaders =>
        rw [if_pos hreaders] at hwrite
        exact SubmissionClient.runOn_submitBytes_of_failed hframe hwrite
      · next hreaders =>
        rw [if_neg hreaders] at hwrite
        exact SubmissionClient.runOn_submitBytes_of_written hframe hwrite

/-- **A line is written whole or not at all.** It is written if the payload fits, is a single line and
    somebody reads; a client never asks for more than can be written at once. -/
theorem SubmissionClient.submitBytes_cases (c : SubmissionClient) (hlimit : c.limit ≤ maxPayloadBytes)
    (payload : Bytes) (h : Host) :
    if payload.length ≤ c.limit ∧ newline ∉ payload ∧ (h.files.node c.writer.file).readers ≠ 0 then
      HostAttempt.runOn (c.submitBytes payload) h
        = (.ok (), (h.withFile c.writer.file fun n =>
            { n with bytes := n.bytes ++ (payload ++ [newline]) }).withLine
              (c.submitted (payload ++ [newline])))
    else ∃ e, HostAttempt.runOn (c.submitBytes payload) h = (.error e, h) := by
  rw [c.runOn_submitBytes hlimit]
  split
  · next hfits => rw [if_neg (Nat.not_lt.2 hfits.1), if_neg hfits.2.1, if_neg hfits.2.2]
  · next hfails =>
    split
    · exact ⟨_, rfl⟩
    · next hshort =>
      split
      · exact ⟨_, rfl⟩
      · next hline =>
        have hreaders : (h.files.node c.writer.file).readers = 0 :=
          Classical.not_not.1 fun hread => hfails ⟨Nat.not_lt.1 hshort, hline, hread⟩
        rw [if_pos hreaders]
        exact ⟨_, rfl⟩

end JobMonitor
