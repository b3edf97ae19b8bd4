import JobMonitor.Proofs.Channel.Messages
import JobMonitor.Proofs.Channel.Pipe

set_option autoImplicit false

/-! # Delivery

Clients and the reader of a channel have the same pipe open. A payload that a client has sent waits in
the pipe or in what the reader has read, behind those that have been sent before it, until the reader
gives it as a message. `ChannelReader.Serves` is that state of the channel, and all that happens at its
ends keeps it. -/

namespace JobMonitor

/-- The reader has the pipe open that the clients write to, and has still to give these payloads. -/
structure ChannelReader.Serves (limit : Nat) (r : ChannelReader) (clients : List SubmissionClient)
    (h : Host) (waiting : List Bytes) : Prop where
  found : h.files.find r.path = .ok r.file
  connected : ∀ c ∈ clients, c.writer.file = r.file ∧ c.limit = min limit maxPayloadBytes
  isRead : clients ≠ [] → (h.files.node r.file).readers ≠ 0
  awaits : r.framer.Awaits limit (h.files.node r.file).bytes waiting

variable {limit : Nat} {r : ChannelReader} {clients : List SubmissionClient} {h : Host}
  {waiting : List Bytes}

/-- A listener that has been bound to an empty pipe has nothing to give. -/
theorem Listener.serves_of_bind {path : Path} {registry : Registry} {options : IngestOptions}
    {h h' : Host} {l : Listener}
    (hok : HostAttempt.runOn (Listener.bind path registry options) h = (.ok l, h'))
    (hempty : (h'.files.node l.reader.file).bytes = []) :
    l.reader.Serves options.maxFrameBytes [] h' [] := by
  obtain ⟨rfl, hframer, -, hfind⟩ := Listener.of_bind hok
  refine ⟨hfind, fun c hc => absurd hc List.not_mem_nil, fun hne => absurd rfl hne, ?_⟩
  rw [hframer, hempty]
  exact Framer.awaits_nil _

/-- A change of the pipe is one of what waits in it, if the pipe stays a pipe and is read as before. -/
theorem ChannelReader.Serves.change (hs : r.Serves limit clients h waiting)
    (change : FileNode → FileNode) (hkind : ∀ n, (change n).kind = n.kind)
    (hreaders : ∀ n, (change n).readers = n.readers) {framer : Framer} (store : Store)
    {waiting' : List Bytes}
    (hawaits : framer.Awaits limit ((h.withFile r.file change).files.node r.file).bytes waiting') :
    ChannelReader.Serves limit { r with framer, store } clients (h.withFile r.file change) waiting' where
  found := (congrFun (Files.find_modify h.files r.file change hkind) r.path).trans hs.found
  connected := hs.connected
  isRead := by
    intro hne
    rw [Host.withFile, Files.see_node_modify FileNode.readers _ _ _ hreaders]
    exact hs.isRead hne
  awaits := hawaits

/-! ## Clients -/

/-- A change that leaves alone what waits in the pipe does no harm. -/
theorem ChannelReader.Serves.keep (hs : r.Serves limit clients h waiting)
    (change : FileNode → FileNode) (hkind : ∀ n, (change n).kind = n.kind)
    (hreaders : ∀ n, (change n).readers = n.readers)
    (hbytes : (change (h.files.node r.file)).bytes = (h.files.node r.file).bytes) :
    r.Serves limit clients (h.withFile r.file change) waiting := by
  refine hs.change change hkind hreaders r.store ?_
  have hsame : ((h.withFile r.file change).files.node r.file).bytes = (h.files.node r.file).bytes := by
    rw [Host.withFile, Files.node_modify]
    split
    · exact hbytes
    · rfl
  rw [hsame]
  exact hs.awaits

/-- A client that connects has the pipe of the reader. -/
theorem ChannelReader.Serves.connect (hs : r.Serves limit clients h waiting) :
    match HostAttempt.runOn (SubmissionClient.connect r.path limit) h with
    | (.ok client, h') => r.Serves limit (clients ++ [client]) h' waiting
    | (.error _, h') => r.Serves limit clients h' waiting := by
  rcases SubmissionClient.connect_cases r.path limit h with
    ⟨e, hrun⟩ | ⟨file, hfind, hreaders, hrun⟩
  · rw [hrun]
    exact hs
  · obtain rfl : file = r.file := Except.ok.inj (hfind.symm.trans hs.found)
    have hopen := hs.keep (fun n => { n with writers := n.writers + 1 }) (fun _ => rfl)
      (fun _ => rfl) rfl
    have hread := h.files.see_node_modify FileNode.readers r.file
      (fun n => { n with writers := n.writers + 1 }) (fun _ => rfl) r.file
    rw [hrun]
    refine ⟨hopen.found, fun c hc => ?_, fun _ => ?_, hopen.awaits⟩
    · rcases List.mem_append.1 hc with hc | hc
      · exact hs.connected c hc
      · rw [List.mem_singleton.1 hc]
        exact ⟨rfl, rfl⟩
    · exact fun hzero => hreaders (hread.symm.trans hzero)

/-- A client that disconnects takes nothing with it. -/
theorem ChannelReader.Serves.close (hs : r.Serves limit clients h waiting) {c : SubmissionClient}
    (hc : c ∈ clients) : r.Serves limit clients (c.close.run h).2 waiting := by
  have hrun : (c.close.run h).2 = h.withFile c.writer.file fun n =>
      { n with writers := n.writers - 1 }.settle := rfl
  rw [hrun, (hs.connected c hc).1]
  refine hs.keep _ (fun n => ?_) (fun n => ?_) ?_
  · unfold FileNode.settle
    split <;> rfl
  · unfold FileNode.settle
    split <;> rfl
  · unfold FileNode.settle
    -- The reader still has the pipe open, so what waits in it is not forgotten.
    split
    · next hunread => exact absurd hunread.2.1 (hs.isRead (List.ne_nil_of_mem hc))
    · rfl

/-- A client sends what is a single line and not too long for the monitor or for the pipe. -/
theorem ChannelReader.Serves.submitBytes_ok_iff (hs : r.Serves limit clients h waiting)
    {c : SubmissionClient} (hc : c ∈ clients) (payload : Bytes) :
    (HostAttempt.runOn (c.submitBytes payload) h).1 = .ok () ↔
      payload.length ≤ min limit maxPayloadBytes ∧ newline ∉ payload := by
  obtain ⟨hfile, hlimit⟩ := hs.connected c hc
  have hcases := c.submitBytes_cases (hlimit ▸ Nat.min_le_right _ _) payload h
  rw [hfile, hlimit] at hcases
  split at hcases
  · next hfits =>
    rw [hcases]
    exact ⟨fun _ => ⟨hfits.1, hfits.2.1⟩, fun _ => rfl⟩
  · next hfits =>
    obtain ⟨e, hrun⟩ := hcases
    rw [hrun]
    refine ⟨fun herror => absurd herror (by simp), fun hline => ?_⟩
    exact absurd ⟨hline.1, hline.2, hs.isRead (List.ne_nil_of_mem hc)⟩ hfits

/-- **A payload that a client has sent waits behind the others**, and one that has not been sent leaves
    everything as it was. -/
theorem ChannelReader.Serves.submitBytes (hs : r.Serves limit clients h waiting)
    {c : SubmissionClient} (hc : c ∈ clients) {payload : Bytes}
    (hblank : payload.isBlank = false) (hreturn : payload.getLast? ≠ some carriageReturn) :
    match HostAttempt.runOn (c.submitBytes payload) h with
    | (.ok (), h') => r.Serves limit clients h' (waiting ++ [payload])
    | (.error _, h') => r.Serves limit clients h' waiting := by
  obtain ⟨hfile, hlimit⟩ := hs.connected c hc
  have hcases := c.submitBytes_cases (hlimit ▸ Nat.min_le_right _ _) payload h
  rw [hfile, hlimit] at hcases
  split at hcases
  · next hfits =>
    obtain ⟨hshort, hline, hreaders⟩ := hfits
    have hsendable : IsSendable limit payload :=
      ⟨hline, hblank, hreturn, Nat.le_trans hshort (Nat.min_le_left _ _)⟩
    have hwrite := hs.change (fun n => { n with bytes := n.bytes ++ (payload ++ [newline]) })
      (fun _ => rfl) (fun _ => rfl) r.store (by
        rw [Host.withFile, Files.node_modify, if_pos ⟨rfl, h.files.lt_length_of_readers hreaders⟩]
        exact hs.awaits.write hsendable)
    rw [hcases]
    exact ⟨hwrite.found, hwrite.connected, hwrite.isRead, hwrite.awaits⟩
  · obtain ⟨e, hrun⟩ := hcases
    rw [hrun]
    exact hs

/-! ## The reader -/

/-- What is taken out of the pipe leaves the rest in it. -/
theorem ChannelReader.Serves.drain (hs : r.Serves limit clients h waiting) {framer : Framer}
    {store : Store} {bytes : Bytes} {waiting' : List Bytes}
    (hnil : (h.files.node r.file).bytes = [] → bytes = [])
    (hawaits : framer.Awaits limit bytes waiting') :
    ChannelReader.Serves limit { r with framer, store } clients
      (h.withFile r.file fun n => { n with bytes }) waiting' := by
  refine hs.change (fun n => { n with bytes }) (fun _ => rfl) (fun _ => rfl) store ?_
  rw [Host.withFile, Files.bytes_modify _ _ hnil]
  exact hawaits

/-- Some of the bytes that wait in the pipe are read. -/
theorem ChannelReader.Serves.feed (hs : r.Serves limit clients h waiting) (count : Nat) :
    ChannelReader.Serves limit
      { r with framer := r.framer.feed ((h.files.node r.file).bytes.take count) } clients
      (h.withFile r.file fun n => { n with bytes := (h.files.node r.file).bytes.drop count })
      waiting := by
  refine hs.drain (fun hnil => ?_) (Framer.Awaits.feed ?_)
  · rw [hnil, List.drop_nil]
  · rw [List.take_append_drop]
    exact hs.awaits

/-- A frame is taken from what has been read. -/
theorem ChannelReader.Serves.take (hs : r.Serves limit clients h waiting) :
    match r.framer.next with
    | (none, framer) => ChannelReader.Serves limit { r with framer } clients h waiting
    | (some frame, framer) => ∃ payload rest, waiting = payload :: rest ∧ frame = .message payload ∧
        ChannelReader.Serves limit { r with framer } clients h rest := by
  rcases hnext : r.framer.next with ⟨_ | frame, framer⟩
  · exact ⟨hs.found, hs.connected, hs.isRead, (hs.awaits.of_next_none hnext).2⟩
  · obtain ⟨payload, rest, hwaiting, hframe, hrest⟩ := hs.awaits.of_next_some hnext
    exact ⟨payload, rest, hwaiting, hframe, hs.found, hs.connected, hs.isRead, hrest⟩

/-- **The reader gives the first payload that waits**, and nothing only if none does. -/
theorem ChannelReader.Serves.next (hs : r.Serves limit clients h waiting) :
    (r.next.run h).1.1 = waiting.head?.map Frame.message ∧
      (r.next.run h).1.2.Serves limit clients (r.next.run h).2 waiting.tail := by
  obtain ⟨hframe, hawaits⟩ := hs.awaits.pull r.store
  refine ⟨hframe, hs.drain (fun hnil => ?_) hawaits⟩
  rw [hnil]
  exact Framer.pull_nil _ _

end JobMonitor
