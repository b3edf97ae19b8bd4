import JobMonitor.Proofs.Ingest.Intake
import JobMonitor.Proofs.Ingest.Run
import JobMonitor.Proofs.Registry.Balance

set_option autoImplicit false

/-! # Accounts of the intake

A frame is counted once. If it does not put an entry into the registry it leaves the registry and
what is published as they were; if it does, it publishes one change, and what the rules said about
the job, what the registry says about it and what is counted agree (`Handled.Settled`). So after any
run the counts tell the frames, the kinds of the changes that have been published and, with the
removals, how many jobs there are (`ingestion_accounted`). -/

namespace JobMonitor

/-! ## Counts -/

/-- The counts in the order in which they are reported. -/
def IngestCounts.toList (c : IngestCounts) : List Nat :=
  [c.accepted, c.updated, c.rejected, c.malformed, c.discarded]

/-- An outcome is counted once. -/
theorem IngestCounts.exists_record (c : IngestCounts) (outcome : IngestOutcome) :
    ∃ k < 5, (c.record outcome).toList = c.toList.modify k (· + 1) := by
  cases outcome with
  | accepted jobId replaced =>
    cases replaced with
    | false => exact ⟨0, by decide, rfl⟩
    | true => exact ⟨1, by decide, rfl⟩
  | rejected jobId reason => exact ⟨2, by decide, rfl⟩
  | undecodable e => exact ⟨3, by decide, rfl⟩
  | discarded length reason => exact ⟨4, by decide, rfl⟩

theorem IngestCounts.total_record (c : IngestCounts) (outcome : IngestOutcome) :
    (c.record outcome).total = c.total + 1 := by
  cases outcome with
  | accepted jobId replaced => cases replaced <;> simp only [record, total] <;> omega
  | _ => simp only [record, total]; omega

/-! ## One frame -/

/-- The rules are told whether the job is registered, and say so if they let a submission through. -/
theorem Submission.replaces_of_admit {s : Submission} {isRegistered : Bool}
    {policy : DuplicatePolicy} {now : Instant} {a : Admitted}
    (h : s.admit isRegistered policy now = .ok a) : a.replaces = isRegistered := by
  rcases s.admit_eq with ⟨-, reason, -, hresult⟩ | ⟨e, -, hresult⟩
  · rw [hresult] at h
    cases h
  · rw [hresult] at h
    split at h
    · cases h
    · rw [← Except.ok.inj h]

/-- What the registration of an entry counts is what it publishes. -/
theorem Intake.countOf_register (i : Intake) (e : Entry) :
    (i.register e).intake.counts.accepted
        = i.counts.accepted + countOf .added (i.register e).changes ∧
      (i.register e).intake.counts.updated
        = i.counts.updated + countOf .updated (i.register e).changes := by
  have hchanges : (i.register e).changes
      = [⟨if (i.registry.upsert e).result.isSome then .updated else .added, e⟩] := rfl
  have hcounts : (i.register e).intake.counts
      = i.counts.record (.accepted e.jobId (i.registry.upsert e).result.isSome) := rfl
  rw [hchanges, hcounts, countOf_singleton, countOf_singleton]
  cases (i.registry.upsert e).result <;> exact ⟨rfl, rfl⟩

/-- The change that a frame makes goes with its outcome. An accepted one is a message whose submission
    the rules let through, and its entry is put into the registry; the registration of its job just
    before is what the rules went by, what has been replaced and what the change says. Any other
    leaves the registry as it was, and nothing is published. -/
def Handled.Settled (h : Handled) (before : Intake) (frame : Frame) (now : Instant) : Prop :=
  match h.outcome with
  | .accepted jobId replaced =>
    ∃ payload s a, frame = .message payload ∧ Submission.decode payload = .ok s ∧
      before.judge s now = .ok a ∧ a.entry.jobId = jobId ∧ a.replaces = replaced ∧
      before.registry.table.contains jobId = replaced ∧
      h.changes = [⟨if replaced then .updated else .added, a.entry⟩] ∧
      h.intake.registry = (before.registry.upsert a.entry).registry
  | .rejected .. | .undecodable _ | .discarded .. =>
    h.changes = [] ∧ h.intake.registry = before.registry

theorem Intake.settled_handle (i : Intake) (frame : Frame) (now : Instant) :
    (i.handle frame now).Settled i frame now := by
  cases frame with
  | discarded length reason => exact ⟨rfl, rfl⟩
  | message payload =>
    rw [handle, ingest]
    cases hdecode : Submission.decode payload with
    | error e => exact ⟨rfl, rfl⟩
    | ok s =>
      dsimp only
      cases hjudge : i.judge s now with
      | error reason => exact ⟨rfl, rfl⟩
      | ok a =>
        have hid : a.entry.jobId = s.jobId := Submission.jobId_of_admit hjudge
        have hreplaces : a.replaces = i.registry.table.contains a.entry.jobId := by
          rw [hid]
          exact Submission.replaces_of_admit hjudge
        exact ⟨payload, s, a, rfl, hdecode, hjudge, rfl, hreplaces, rfl, rfl, rfl⟩

theorem Intake.counts_handle (i : Intake) (frame : Frame) (now : Instant) :
    (i.handle frame now).intake.counts = i.counts.record (i.handle frame now).outcome := by
  cases frame with
  | discarded length reason => rfl
  | message payload =>
    rw [handle, ingest]
    cases Submission.decode payload with
    | error e => rfl
    | ok s =>
      dsimp only
      cases i.judge s now with
      | error reason => rfl
      | ok a => rfl

/-- What is counted as accepted or updated is what is published as added or updated. -/
theorem Intake.countOf_handle (i : Intake) (frame : Frame) (now : Instant) :
    (i.handle frame now).intake.counts.accepted
        = i.counts.accepted + countOf .added (i.handle frame now).changes ∧
      (i.handle frame now).intake.counts.updated
        = i.counts.updated + countOf .updated (i.handle frame now).changes := by
  have hsettled := i.settled_handle frame now
  rw [Handled.Settled] at hsettled
  rw [i.counts_handle frame now]
  cases houtcome : (i.handle frame now).outcome with
  | accepted jobId replaced =>
    rw [houtcome] at hsettled
    obtain ⟨payload, s, a, -, -, -, -, -, -, hchanges, -⟩ := hsettled
    rw [hchanges, countOf_singleton, countOf_singleton]
    cases replaced <;> exact ⟨rfl, rfl⟩
  | rejected | undecodable | discarded =>
    rw [houtcome] at hsettled
    rw [hsettled.1]
    exact ⟨rfl, rfl⟩

/-! ## Runs -/

variable {σ : Type}

/-- The step hands a frame to the intake. A payload is handled like a message frame that holds it. -/
def IntakeStep.isFrame : IntakeStep σ → Bool
  | .ingest .. | .handle .. => true
  | .remove _ | .sweep _ => false

/-- The counts of a run agree with its frames, with what it has published and with the jobs that there
    are. What has been published has gone to the feed, which began as `feed`. -/
structure IntakeRun.Accounted (feed : Feed Change) (run : IntakeRun σ) (frames : Nat) : Prop where
  handled : run.intake.counts.total = frames
  added : countOf .added run.log = run.intake.counts.accepted
  updated : countOf .updated run.log = run.intake.counts.updated
  size : run.registry.table.size + countOf .removed run.log = run.intake.counts.accepted
  delivered : run.registry.feed = feed.publishAll run.log

/-- What is not a frame leaves the counts alone and publishes nothing but removals. -/
theorem IntakeRun.removes_of_not_isFrame (run : IntakeRun σ) {s : IntakeStep σ}
    (h : s.isFrame = false) : (run.step s).intake.counts = run.intake.counts ∧
      ∃ changes, (run.step s).log = run.log ++ changes ∧ ∀ c ∈ changes, c.kind = .removed := by
  cases s with
  | ingest payload now => cases h
  | handle frame now => cases h
  | remove op =>
    exact ⟨rfl, _, rfl, fun c => Registry.kind_of_mem_perform (r := run.registry) op.2⟩
  | sweep isAlive =>
    refine ⟨rfl, _, rfl, fun c hc => ?_⟩
    obtain ⟨e, -, rfl⟩ := List.mem_map.1 hc
    rfl

theorem IntakeRun.exists_take_of_isFrame (run : IntakeRun σ) {s : IntakeStep σ}
    (h : s.isFrame = true) :
    ∃ frame now, run.step s = run.take (run.intake.handle frame now) := by
  cases s with
  | ingest payload now => exact ⟨.message payload, now, rfl⟩
  | handle frame now => exact ⟨frame, now, rfl⟩
  | remove op => cases h
  | sweep isAlive => cases h

/-- A step counts a frame if it is one, and the counts of new and replaced jobs go with what it
    publishes. -/
theorem IntakeRun.exists_counts_step (run : IntakeRun σ) (s : IntakeStep σ) :
    ∃ changes, (run.step s).log = run.log ++ changes ∧
      (run.step s).intake.counts.total = run.intake.counts.total + (if s.isFrame then 1 else 0) ∧
      (run.step s).intake.counts.accepted
        = run.intake.counts.accepted + countOf .added changes ∧
      (run.step s).intake.counts.updated
        = run.intake.counts.updated + countOf .updated changes := by
  cases hframe : s.isFrame with
  | true =>
    obtain ⟨frame, now, hstep⟩ := run.exists_take_of_isFrame hframe
    obtain ⟨haccepted, hupdated⟩ := run.intake.countOf_handle frame now
    rw [hstep]
    refine ⟨_, rfl, ?_, haccepted, hupdated⟩
    show (run.intake.handle frame now).intake.counts.total = _
    rw [run.intake.counts_handle, IngestCounts.total_record, if_pos rfl]
  | false =>
    obtain ⟨hcounts, changes, hlog, hremoved⟩ := run.removes_of_not_isFrame hframe
    obtain ⟨hadded, hupdated⟩ := countOf_of_removals hremoved
    rw [hcounts]
    exact ⟨changes, hlog, rfl, by rw [hadded, Nat.add_zero], by rw [hupdated, Nat.add_zero]⟩

theorem IntakeRun.Accounted.step {feed : Feed Change} {run : IntakeRun σ} {frames : Nat}
    (h : run.Accounted feed frames) (s : IntakeStep σ) :
    (run.step s).Accounted feed (frames + if s.isFrame then 1 else 0) := by
  obtain ⟨changes, hchanges, htotal, haccepted, hupdated⟩ := run.exists_counts_step s
  -- Whatever the step is, it is operations on the registry, which keep the balance.
  obtain ⟨ops, -, hregistry, hlog⟩ := run.exists_performAll s
  obtain rfl := List.append_cancel_left (hchanges.symm.trans hlog)
  have hbalance := run.registry.size_performAll ops
  rw [← hregistry] at hbalance
  have hsize := h.size
  constructor
  · rw [htotal, h.handled]
  · rw [hlog, countOf_append, h.added, haccepted]
  · rw [hlog, countOf_append, h.updated, hupdated]
  · rw [hlog, countOf_append, haccepted]
    omega
  · rw [hregistry, Registry.feed_performAll, h.delivered, hlog]
    exact List.foldl_append.symm

theorem IntakeRun.Accounted.steps {feed : Feed Change} {run : IntakeRun σ} {frames : Nat}
    (h : run.Accounted feed frames) (steps : List (IntakeStep σ)) :
    (run.steps steps).Accounted feed (frames + steps.countP IntakeStep.isFrame) := by
  induction steps generalizing run frames with
  | nil => exact h
  | cons s rest ih =>
    have hrest := ih (h.step s)
    rwa [Nat.add_assoc, Nat.add_comm (if s.isFrame = true then 1 else 0), ← List.countP_cons] at hrest

/-- **Every frame is accounted for.** Whatever has happened to an intake that began with an empty
    registry, the next frame is counted under exactly one of the counts; it changes the registry and
    is published only if it is accepted, and then as what it is. Every subscriber has what is published to
    receive behind what it had to receive before. All frames so far are in the counts,
    what has been published as added or updated is what has been counted so, and there are as many
    jobs as have been accepted and not been removed. -/
theorem ingestion_accounted (options : IngestOptions) (feed : Feed Change) (world : σ)
    (steps : List (IntakeStep σ)) :
    let run := (IntakeRun.mk ⟨options, ⟨.empty, feed⟩, {}⟩ world []).steps steps
    (∀ frame now, let handled := run.intake.handle frame now
      handled.Settled run.intake frame now ∧
        handled.intake.counts = run.intake.counts.record handled.outcome ∧
        (∃ k < 5, handled.intake.counts.toList = run.intake.counts.toList.modify k (· + 1)) ∧
        handled.intake.registry.feed = run.intake.registry.feed.publishAll handled.changes ∧
        ∀ name unread, run.intake.registry.feed.HasUnread name unread →
          handled.intake.registry.feed.HasUnread name (unread ++ handled.changes)) ∧
      run.Accounted feed (steps.countP IntakeStep.isFrame) := by
  intro run
  have hstart : (IntakeRun.mk ⟨options, ⟨.empty, feed⟩, {}⟩ world []).Accounted feed 0 :=
    ⟨rfl, rfl, rfl, rfl, rfl⟩
  refine ⟨fun frame now => ?_, by simpa using hstart.steps steps⟩
  obtain ⟨ops, -, hrun⟩ := run.intake.exists_performAll_handle frame now
  have hcounts := run.intake.counts_handle frame now
  have hfeed := run.intake.registry.feed_performAll ops
  rw [hrun] at hfeed
  refine ⟨run.intake.settled_handle frame now, hcounts, ?_, hfeed, fun name unread hunread => ?_⟩
  · rw [hcounts]
    exact run.intake.counts.exists_record _
  · rw [hfeed]
    exact hunread.publishAll _

end JobMonitor
