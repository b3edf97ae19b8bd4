import JobMonitor.Proofs.Channel.Pipe
import JobMonitor.Proofs.Job.Record

set_option autoImplicit false

/-! # Whole lines or nothing

A client is asked to send payloads, records and submissions in any order, while somebody takes what
waits in the pipe, in pieces of any size. Each call is answered by what is found out about its payload
before anything is written (`ClientCall.Gives`), so a call that fails leaves no trace, and what has gone
through the pipe is made of whole lines. -/

namespace JobMonitor

/-! ## Calls -/

/-- What a client is asked to send. -/
inductive ClientCall where
  | bytes (payload : Bytes)
  | record (r : SubmissionRecord)
  | submission (s : Submission)

/-- The payload that is to be sent. -/
def ClientCall.payload : ClientCall → Bytes
  | .bytes payload => payload
  | .record r => r.bytes
  | .submission s => s.toRecord.bytes

/-- The line that is to be written. -/
def ClientCall.frame (call : ClientCall) : Bytes := call.payload ++ [newline]

/-- Asks a client to send it. -/
def ClientCall.attempt (c : SubmissionClient) : ClientCall → HostAttempt SubmissionError Unit
  | .bytes payload => c.submitBytes payload
  | .record r => c.submitRecord r
  | .submission s => c.submit s

/-- What a call gives if no payload may be longer than the limit. Only the client itself ever finds a
    payload too long, and no text of a record is ever refused for a line break. -/
structure ClientCall.Gives (call : ClientCall) (limit : Nat) (result : Except SubmissionError Unit) :
    Prop where
  tooLarge : ∀ length most, result = .error (.frameTooLarge length most) ↔
    limit < call.payload.length ∧ length = call.payload.length ∧ most = limit
  invalid : ∀ e, result = .error (.invalidFrame e) ↔
    call.payload.length ≤ limit ∧ newline ∈ call.payload ∧ e = .containsDelimiter
  sent : result = .ok () ↔ call.payload.length ≤ limit ∧ newline ∉ call.payload
  encoded : ∀ length most, result ≠ .error (.invalidFrame (.tooLong length most))
  written : ∀ path cause, result ≠ .error (.writeFailed path cause)
  isLine : (∀ payload, call ≠ .bytes payload) → ∀ e, result ≠ .error (.invalidFrame e)

/-- The host after a client has written a line. -/
def SubmissionClient.afterWriting (c : SubmissionClient) (frame : Bytes) (h : Host) : Host :=
  (h.withFile c.writer.file fun n => { n with bytes := n.bytes ++ frame }).withLine (c.submitted frame)

/-- What a call gives and what it leaves: the line, written at once, or the host as it was. -/
structure ClientCall.Settles (call : ClientCall) (c : SubmissionClient) (h : Host)
    (result : Except SubmissionError Unit) (after : Host) : Prop where
  gives : call.Gives c.limit result
  whole : result = .ok () → after = c.afterWriting call.frame h ∧ call.frame.length ≤ atomicWriteBytes
  nothing : result ≠ .ok () → after = h

namespace ClientCall

variable {call : ClientCall} {c : SubmissionClient} {limit : Nat} {h : Host}

theorem attempt_eq (call : ClientCall) (c : SubmissionClient) :
    call.attempt c = c.submitBytes call.payload := by
  cases call <;> rfl

/-- The text of a record or of a submission is a single line. -/
theorem newline_not_mem_payload (hcall : ∀ payload, call ≠ .bytes payload) :
    newline ∉ call.payload := by
  cases call with
  | bytes payload => exact absurd rfl (hcall payload)
  | record r => exact r.newline_not_mem_bytes
  | submission s => exact s.toRecord.newline_not_mem_bytes

theorem gives_tooLarge (hlong : limit < call.payload.length) :
    call.Gives limit (.error (.frameTooLarge call.payload.length limit)) where
  tooLarge length most := by simp [hlong, eq_comm]
  invalid e := by simp [Nat.not_le.2 hlong]
  sent := by simp [Nat.not_le.2 hlong]
  encoded length most := by simp
  written path cause := by simp
  isLine _ e := by simp

theorem gives_invalid (hshort : call.payload.length ≤ limit) (hmem : newline ∈ call.payload) :
    call.Gives limit (.error (.invalidFrame .containsDelimiter)) where
  tooLarge length most := by simp [Nat.not_lt.2 hshort]
  invalid e := by simp [hshort, hmem, eq_comm]
  sent := by simp [hmem]
  encoded length most := by simp
  written path cause := by simp
  isLine hcall := absurd hmem (newline_not_mem_payload hcall)

theorem gives_ok (hshort : call.payload.length ≤ limit) (hline : newline ∉ call.payload) :
    call.Gives limit (.ok ()) where
  tooLarge length most := by simp [Nat.not_lt.2 hshort]
  invalid e := by simp [hline]
  sent := by simp [hshort, hline]
  encoded length most := by simp
  written path cause := by simp
  isLine _ e := by simp

/-- **A call sends a whole line or nothing**, as long as somebody reads. -/
theorem settles (hlimit : c.limit ≤ maxPayloadBytes)
    (hreaders : (h.files.node c.writer.file).readers ≠ 0) (call : ClientCall) :
    call.Settles c h (HostAttempt.runOn (call.attempt c) h).1
      (HostAttempt.runOn (call.attempt c) h).2 := by
  rw [attempt_eq, c.runOn_submitBytes hlimit, if_neg hreaders]
  split
  · next hlong => exact ⟨gives_tooLarge hlong, nofun, fun _ => rfl⟩
  · next hshort =>
    have hshort := Nat.not_lt.1 hshort
    split
    · next hmem => exact ⟨gives_invalid hshort hmem, nofun, fun _ => rfl⟩
    · next hline =>
      refine ⟨gives_ok hshort hline, fun _ => ⟨rfl, ?_⟩, fun hfailed => absurd rfl hfailed⟩
      rw [frame, List.length_append, List.length_singleton]
      exact Nat.succ_le_succ (Nat.le_trans hshort hlimit)

end ClientCall

/-! ## Runs -/

/-- What happens at the pipe of a client. -/
inductive PipeEvent where
  | calls (call : ClientCall)
  /-- So many of the bytes that wait in the pipe are taken, or all if there are fewer. -/
  | reads (count : Nat)

/-- What a client has been asked and what has gone through its pipe. -/
structure PipeRun where
  host : Host
  /-- The calls and what they gave, oldest first. -/
  results : List (ClientCall × Except SubmissionError Unit) := []
  /-- The bytes that have been taken from the pipe. -/
  taken : Bytes := []

/-- The lines of the calls that have succeeded. -/
def linesOf (results : List (ClientCall × Except SubmissionError Unit)) : Bytes :=
  results.flatMap fun
    | (call, .ok ()) => call.frame
    | (_, .error _) => []

/-- The calls among some events. -/
def callsAmong (events : List PipeEvent) : List ClientCall :=
  events.filterMap fun
    | .calls call => some call
    | .reads _ => none

/-- The run after one more event. -/
def PipeRun.step (c : SubmissionClient) (run : PipeRun) : PipeEvent → PipeRun
  | .calls call =>
    let (result, host) := HostAttempt.runOn (call.attempt c) run.host
    { run with host, results := run.results ++ [(call, result)] }
  | .reads count =>
    { run with
      host := run.host.withFile c.writer.file fun n => { n with bytes := n.bytes.drop count }
      taken := run.taken ++ (run.host.files.node c.writer.file).bytes.take count }

/-- The run after more events. -/
def PipeRun.steps (c : SubmissionClient) (run : PipeRun) (events : List PipeEvent) : PipeRun :=
  events.foldl (PipeRun.step c) run

/-- The pipe is read, and what has gone into it are the bytes that were in it and the lines of the
    calls that have succeeded. -/
structure PipeRun.Carries (run : PipeRun) (c : SubmissionClient) (before : Bytes) : Prop where
  isRead : (run.host.files.node c.writer.file).readers ≠ 0
  gives : ∀ x ∈ run.results, x.1.Gives c.limit x.2
  bytes : run.taken ++ (run.host.files.node c.writer.file).bytes = before ++ linesOf run.results

namespace PipeRun

variable {run : PipeRun} {c : SubmissionClient} {before : Bytes}

theorem Carries.reads (hrun : run.Carries c before) (count : Nat) :
    (run.step c (.reads count)).Carries c before := by
  have hnode := run.host.files.node_modify c.writer.file c.writer.file fun n =>
    { n with bytes := n.bytes.drop count }
  rw [if_pos ⟨rfl, run.host.files.lt_length_of_readers hrun.isRead⟩] at hnode
  refine ⟨?_, hrun.gives, ?_⟩
  · rw [step, Host.withFile, hnode]
    exact hrun.isRead
  · rw [step, Host.withFile, hnode, List.append_assoc, List.take_append_drop]
    exact hrun.bytes

theorem Carries.calls (hrun : run.Carries c before) (hlimit : c.limit ≤ maxPayloadBytes)
    (call : ClientCall) : (run.step c (.calls call)).Carries c before := by
  have hsettles := ClientCall.settles hlimit hrun.isRead call
  rw [step]
  rcases hattempt : HostAttempt.runOn (call.attempt c) run.host with ⟨result, after⟩
  rw [hattempt] at hsettles
  have hgives : ∀ x ∈ run.results ++ [(call, result)], x.1.Gives c.limit x.2 := by
    intro x hx
    rcases List.mem_append.1 hx with hx | hx
    · exact hrun.gives x hx
    · rw [List.mem_singleton.1 hx]
      exact hsettles.gives
  cases result with
  | error e =>
    obtain rfl : after = run.host := hsettles.nothing (by simp)
    refine ⟨hrun.isRead, hgives, ?_⟩
    rw [linesOf, List.flatMap_append, List.flatMap_singleton, List.append_nil]
    exact hrun.bytes
  | ok done =>
    obtain rfl : after = c.afterWriting call.frame run.host := (hsettles.whole rfl).1
    have hnode := run.host.files.node_modify c.writer.file c.writer.file fun n =>
      { n with bytes := n.bytes ++ call.frame }
    rw [if_pos ⟨rfl, run.host.files.lt_length_of_readers hrun.isRead⟩] at hnode
    refine ⟨?_, hgives, ?_⟩
    · rw [SubmissionClient.afterWriting, Host.withLine, Host.withFile, hnode]
      exact hrun.isRead
    · rw [SubmissionClient.afterWriting, Host.withLine, Host.withFile, hnode, linesOf,
        List.flatMap_append, List.flatMap_singleton, ← List.append_assoc, ← List.append_assoc]
      exact congrArg (· ++ call.frame) hrun.bytes

theorem Carries.steps (hrun : run.Carries c before) (hlimit : c.limit ≤ maxPayloadBytes)
    (events : List PipeEvent) : (run.steps c events).Carries c before := by
  induction events generalizing run with
  | nil => exact hrun
  | cons event rest ih =>
    cases event with
    | calls call => exact ih (hrun.calls hlimit call)
    | reads count => exact ih (hrun.reads count)

/-- Every call is answered, in order. -/
theorem map_results_steps (run : PipeRun) (c : SubmissionClient) (events : List PipeEvent) :
    (run.steps c events).results.map (·.1) = run.results.map (·.1) ++ callsAmong events := by
  induction events generalizing run with
  | nil => exact (List.append_nil _).symm
  | cons event rest ih =>
    have hrest := ih (run.step c event)
    rw [steps, List.foldl_cons, ← steps, hrest]
    cases event with
    | calls call =>
      rw [step, List.map_append, List.append_assoc]
      rfl
    | reads count => rfl

end PipeRun

/-! ## Any run -/

/-- **Whole lines or nothing.** Whatever limit is asked for, a client that has connected refuses what is
    longer than this limit or than leaves room for the line end in what is written at once, then what is
    not a single line, and writes everything else as one line at once. So all that goes through the pipe
    are the lines of the calls that succeed, whatever fails between them. -/
theorem lines_whole_or_nothing {path : Path} {limit : Nat} {h h' : Host} {client : SubmissionClient}
    (hconnect : HostAttempt.runOn (SubmissionClient.connect path limit) h = (.ok client, h'))
    (events : List PipeEvent) :
    let run := PipeRun.steps client { host := h' } events
    client.limit = min limit 4095 ∧
      (run.results.map (·.1) = callsAmong events ∧ ∀ x ∈ run.results, x.1.Gives client.limit x.2) ∧
      run.taken ++ (run.host.files.node client.writer.file).bytes
        = (h.files.node client.writer.file).bytes ++ linesOf run.results ∧
      ∀ call : ClientCall, call.Settles client run.host
        (HostAttempt.runOn (call.attempt client) run.host).1
        (HostAttempt.runOn (call.attempt client) run.host).2 := by
  intro run
  rcases SubmissionClient.connect_cases path limit h with ⟨e, hfailed⟩ | ⟨file, -, hreaders, hopened⟩
  · rw [hfailed] at hconnect
    cases hconnect
  · rw [hopened] at hconnect
    obtain ⟨hclient, rfl⟩ := Prod.mk.inj hconnect
    obtain rfl := Except.ok.inj hclient
    have hlimit : min limit maxPayloadBytes ≤ maxPayloadBytes := Nat.min_le_right _ _
    have hnode := h.files.node_modify file file fun n => { n with writers := n.writers + 1 }
    rw [if_pos ⟨rfl, h.files.lt_length_of_readers hreaders⟩] at hnode
    have hstart : PipeRun.Carries
        { host := h.withFile file fun n => { n with writers := n.writers + 1 } }
        ⟨⟨path, file⟩, min limit maxPayloadBytes⟩ (h.files.node file).bytes := by
      refine ⟨?_, fun x hx => absurd hx List.not_mem_nil, ?_⟩
      · rw [Host.withFile, hnode]
        exact hreaders
      · rw [Host.withFile, hnode]
        exact (List.append_nil _).symm
    have hrun := hstart.steps hlimit events
    exact ⟨rfl, ⟨PipeRun.map_results_steps _ _ events, hrun.gives⟩, hrun.bytes,
      ClientCall.settles hlimit hrun.isRead⟩

/-- A payload is too long, another one is two lines, and two are sent while the first is read. -/
theorem lines_whole_or_nothing_short_limit :
    let events : List PipeEvent := [.calls (.bytes [65, 66, 67, 68]), .calls (.bytes [65, newline]),
      .calls (.bytes [65, 66, 67]), .reads 2, .calls (.record {})]
    ∃ l host client host',
      HostAttempt.runOn (Listener.bind "jobs.fifo" (Registry.new 1) {}) {} = (.ok l, host) ∧
      HostAttempt.runOn (SubmissionClient.connect "jobs.fifo" 3) host = (.ok client, host') ∧
      let run := PipeRun.steps client { host := host' } events
      run.taken = [65, 66] ∧
        run.taken ++ (run.host.files.node client.writer.file).bytes
          = [65, 66, 67, newline] ++ (Bytes.ofText "{}" ++ [newline]) := by
  intro events
  obtain ⟨l, host, client, host', hbind, hconnect, hbefore, htaken, hlines⟩ :
      ∃ l host client host',
        HostAttempt.runOn (Listener.bind "jobs.fifo" (Registry.new 1) {}) {} = (.ok l, host) ∧
        HostAttempt.runOn (SubmissionClient.connect "jobs.fifo" 3) host = (.ok client, host') ∧
        (host.files.node client.writer.file).bytes = [] ∧
        let run := PipeRun.steps client { host := host' } events
        run.taken = [65, 66] ∧
          linesOf run.results = [65, 66, 67, newline] ++ (Bytes.ofText "{}" ++ [newline]) :=
    ⟨_, _, _, _, rfl, rfl, rfl, by decide +kernel, by decide +kernel⟩
  refine ⟨l, host, client, host', hbind, hconnect, htaken, ?_⟩
  obtain ⟨-, -, hbytes, -⟩ := lines_whole_or_nothing hconnect events
  rw [hbytes, hbefore, hlines, List.nil_append]

end JobMonitor
