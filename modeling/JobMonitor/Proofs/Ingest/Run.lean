import JobMonitor.Proofs.Job.Admission
import JobMonitor.Proofs.Registry.Sweep
import JobMonitor.Ingest.Intake

set_option autoImplicit false

/-! # Runs of the intake

An intake is handed messages and frames of any content, while entries are removed from its registry
and finished jobs are swept out of it. All that this comes to is operations on the registry, and every
entry that they put in is well formed (`IntakeRun.exists_performAll`). So every entry that is ever
registered or published is (`registered_wellFormed`). -/

namespace JobMonitor

/-- An operation that puts nothing into the registry. -/
abbrev Removal := { op : RegistryOp // ∀ e, op ≠ .upsert e }

/-- What happens to an intake and to its registry. What is found out about processes depends on a
    world, which may be another each time it is looked at. -/
inductive IntakeStep (σ : Type) where
  /-- A payload is handed in. -/
  | ingest (payload : Bytes) (now : Instant)
  /-- A frame is handed in. -/
  | handle (frame : Frame) (now : Instant)
  /-- Somebody removes entries. -/
  | remove (op : Removal)
  /-- Finished jobs are swept out. -/
  | sweep (isAlive : Probe (StateM σ))

/-- How far a run has got. -/
structure IntakeRun (σ : Type) where
  intake : Intake
  world : σ
  /-- What has been published, oldest first. -/
  log : List Change := []

variable {σ : Type}

/-- The registry of the intake. -/
def IntakeRun.registry (run : IntakeRun σ) : Registry := run.intake.registry

/-- The run after a message or a frame has been handled. -/
def IntakeRun.take (run : IntakeRun σ) (handled : Handled) : IntakeRun σ :=
  { run with intake := handled.intake, log := run.log ++ handled.changes }

/-- The run after something else has changed the registry. -/
def IntakeRun.change (run : IntakeRun σ) (registry : Registry) (changes : List Change) :
    IntakeRun σ :=
  { run with intake := { run.intake with registry }, log := run.log ++ changes }

/-- The run after one more step. -/
def IntakeRun.step (run : IntakeRun σ) : IntakeStep σ → IntakeRun σ
  | .ingest payload now => run.take (run.intake.ingest payload now)
  | .handle frame now => run.take (run.intake.handle frame now)
  | .remove op =>
    let (registry, changes) := run.registry.perform op
    run.change registry changes
  | .sweep isAlive =>
    let ((removed, registry), world) := (run.registry.sweep isAlive).run run.world
    { run.change registry (removed.map (⟨.removed, ·⟩)) with world }

/-- The run after more steps. -/
def IntakeRun.steps (run : IntakeRun σ) (steps : List (IntakeStep σ)) : IntakeRun σ :=
  steps.foldl IntakeRun.step run

/-! ## What a step does to the registry -/

/-- A message puts in one entry at most, and only one that is well formed. -/
theorem Intake.exists_performAll_ingest (i : Intake) (payload : Bytes) (now : Instant) :
    ∃ ops : List RegistryOp, (∀ e, .upsert e ∈ ops → e.WellFormed) ∧
      i.registry.performAll ops
        = ((i.ingest payload now).intake.registry, (i.ingest payload now).changes) := by
  have hnone : ∀ e : Entry, RegistryOp.upsert e ∈ [] → e.WellFormed :=
    fun _ h => absurd h List.not_mem_nil
  rw [Intake.ingest]
  cases Submission.decode payload with
  | error e => exact ⟨[], hnone, rfl⟩
  | ok s =>
    dsimp only
    cases hjudge : i.judge s now with
    | error reason => exact ⟨[], hnone, rfl⟩
    | ok admitted =>
      refine ⟨[.upsert admitted.entry], fun e he => ?_, ?_⟩
      · obtain rfl := RegistryOp.upsert.inj (List.mem_singleton.1 he)
        exact Submission.wellFormed_of_admit hjudge
      · rw [Registry.performAll_singleton]
        rfl

theorem Intake.exists_performAll_handle (i : Intake) (frame : Frame) (now : Instant) :
    ∃ ops : List RegistryOp, (∀ e, .upsert e ∈ ops → e.WellFormed) ∧
      i.registry.performAll ops
        = ((i.handle frame now).intake.registry, (i.handle frame now).changes) := by
  cases frame with
  | message payload => exact i.exists_performAll_ingest payload now
  | discarded length reason => exact ⟨[], fun _ h => absurd h List.not_mem_nil, rfl⟩

/-- Whatever happens is operations on the registry, and the entries that they put in are well
    formed. -/
theorem IntakeRun.exists_performAll (run : IntakeRun σ) (s : IntakeStep σ) :
    ∃ ops : List RegistryOp, (∀ e, .upsert e ∈ ops → e.WellFormed) ∧
      (run.step s).registry = (run.registry.performAll ops).1 ∧
      (run.step s).log = run.log ++ (run.registry.performAll ops).2 := by
  cases s with
  | ingest payload now =>
    obtain ⟨ops, hops, hrun⟩ := run.intake.exists_performAll_ingest payload now
    exact ⟨ops, hops, (congrArg Prod.fst hrun).symm,
      congrArg (run.log ++ ·) (congrArg Prod.snd hrun).symm⟩
  | handle frame now =>
    obtain ⟨ops, hops, hrun⟩ := run.intake.exists_performAll_handle frame now
    exact ⟨ops, hops, (congrArg Prod.fst hrun).symm,
      congrArg (run.log ++ ·) (congrArg Prod.snd hrun).symm⟩
  | remove op =>
    refine ⟨[op], fun e he => absurd (List.mem_singleton.1 he).symm (op.2 e), rfl, ?_⟩
    rw [Registry.performAll_singleton]
    rfl
  | sweep isAlive =>
    obtain ⟨ops, hops, hrun⟩ :=
      run.registry.exists_sweepOver isAlive run.registry.table.entries run.world
    refine ⟨ops, fun e he => ?_, (congrArg Prod.fst hrun).symm,
      congrArg (run.log ++ ·) (congrArg Prod.snd hrun).symm⟩
    obtain ⟨id, gone, hop⟩ := hops _ he
    cases hop

/-! ## What a run keeps -/

/-- All entries that are registered or have been published are well formed, and what has been
    published has gone to the feed, which began as `feed`. -/
structure IntakeRun.KeepsWellFormed (feed : Feed Change) (run : IntakeRun σ) : Prop where
  registered : ∀ e ∈ run.registry.table.entries, e.WellFormed
  published : ∀ c ∈ run.log, c.entry.WellFormed
  delivered : run.registry.feed = feed.publishAll run.log

theorem IntakeRun.KeepsWellFormed.step {feed : Feed Change} {run : IntakeRun σ}
    (h : run.KeepsWellFormed feed) (s : IntakeStep σ) : (run.step s).KeepsWellFormed feed := by
  obtain ⟨ops, hops, hregistry, hlog⟩ := run.exists_performAll s
  obtain ⟨hentries, hchanges⟩ := Registry.forall_performAll hops h.registered
  refine ⟨hregistry ▸ hentries, fun c hc => ?_, ?_⟩
  · rw [hlog] at hc
    rcases List.mem_append.1 hc with hc | hc
    · exact h.published c hc
    · exact hchanges c hc
  · rw [hregistry, Registry.feed_performAll, h.delivered, hlog]
    exact List.foldl_append.symm

theorem IntakeRun.KeepsWellFormed.steps {feed : Feed Change} {run : IntakeRun σ}
    (h : run.KeepsWellFormed feed) (steps : List (IntakeStep σ)) :
    (run.steps steps).KeepsWellFormed feed := by
  induction steps generalizing run with
  | nil => exact h
  | cons s rest ih => exact ih (h.step s)

/-- **Nothing but well-formed entries is ever registered or published.** Whatever an intake with an
    empty registry is handed, and whatever is removed in between: every job has one entry, which is
    found under its own id, and every entry that is registered then, or has been published on the way,
    names at least one process, each once and by a positive number of 32 bits. -/
theorem registered_wellFormed (options : IngestOptions) (feed : Feed Change) (world : σ)
    (steps : List (IntakeStep σ)) :
    let run := (IntakeRun.mk ⟨options, ⟨.empty, feed⟩, {}⟩ world []).steps steps
    run.registry.table.ids.Nodup ∧
      (∀ id e, run.registry.table.get? id = some e → e.jobId = id) ∧
      (∀ e ∈ run.registry.table.entries,
        run.registry.table.get? e.jobId = some e ∧ e.WellFormed) ∧
      run.registry.feed = feed.publishAll run.log ∧
      ∀ c ∈ run.log, c.entry.WellFormed := by
  intro run
  have hstart : (IntakeRun.mk ⟨options, ⟨.empty, feed⟩, {}⟩ world []).KeepsWellFormed feed :=
    ⟨fun _ h => absurd h List.not_mem_nil, fun _ h => absurd h List.not_mem_nil, rfl⟩
  have hrun : run.KeepsWellFormed feed := hstart.steps steps
  refine ⟨?_, fun id e => Table.jobId_of_get?, fun e he => ?_, hrun.delivered, hrun.published⟩
  · have hordered : run.registry.table.ids.Pairwise (· < ·) :=
      List.pairwise_map.2 run.registry.table.ordered
    exact hordered.imp fun hlt => Int64.ne_of_lt hlt
  · exact ⟨Table.get?_eq_some_iff.2 he, hrun.registered e he⟩

end JobMonitor
