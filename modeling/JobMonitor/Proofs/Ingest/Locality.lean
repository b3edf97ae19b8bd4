import JobMonitor.Proofs.Ingest.Intake
import JobMonitor.Proofs.Job.Admission
import JobMonitor.Proofs.Registry.Replay

set_option autoImplicit false

/-! # Messages and the jobs that they are about

A message that holds a submission is about one job. What becomes of it depends on the entry of that
job and on no other, and it leaves all other entries alone (`Intake.ingest_settle`). Up to the time at
which entries are taken in, this holds for messages that are handled one after another as well. -/

namespace JobMonitor

/-! ## What is held for a job -/

/-- The entry of a job, without the time at which it was taken in. -/
def Table.held (t : Table) (id : JobId) : Option Entry := (t.get? id).map Entry.undated

@[inherit_doc Table.held]
def Intake.held (i : Intake) (id : JobId) : Option Entry := i.registry.table.held id

theorem Table.isSome_held (t : Table) (id : JobId) : (t.held id).isSome = t.contains id :=
  Option.isSome_map

/-- The job whose submission a payload holds, if it holds one. -/
def jobOf? (payload : Bytes) : Option JobId :=
  match Submission.decode payload with
  | .ok s => some s.jobId
  | .error _ => none

theorem jobOf?_of_decode {payload : Bytes} {s : Submission} (h : Submission.decode payload = .ok s) :
    jobOf? payload = some s.jobId := by
  rw [jobOf?, h]

/-! ## One submission -/

/-- What becomes of a submission when this is held for its job, and what is held then. -/
def Submission.settle (s : Submission) (policy : DuplicatePolicy) (held : Option Entry) :
    IngestOutcome × Option Entry :=
  match s.admit held.isSome policy .epoch with
  | .error reason => (.rejected s.jobId reason, held)
  | .ok admitted => (.accepted s.jobId held.isSome, some admitted.entry.undated)

theorem Submission.settle_of_entry? {s : Submission} {e : Entry} (h : s.entry? = some e)
    (policy : DuplicatePolicy) (held : Option Entry) :
    s.settle policy held
      = if held.isSome ∧ ¬ s.isUpdate ∧ policy = .reject then
          (.rejected s.jobId .duplicateJobId, held)
        else (.accepted s.jobId held.isSome, some e) := by
  have hundated : Entry.undated { e with ingestedAt := .epoch } = e := by
    obtain ⟨createdAt, -, rfl⟩ := Submission.exists_of_entry? h
    rfl
  rcases s.admit_eq with ⟨hnone, -⟩ | ⟨e', he', hresult⟩
  · rw [hnone] at h
    cases h
  · obtain rfl := Option.some.inj (he'.symm.trans h)
    rw [Submission.settle, hresult]
    by_cases hduplicate : held.isSome ∧ ¬ s.isUpdate ∧ policy = .reject
    · rw [if_pos hduplicate, if_pos hduplicate]
    · rw [if_neg hduplicate, if_neg hduplicate]
      dsimp only
      rw [hundated]

/-- A submission that breaks a rule is rejected for that, whatever is held. -/
theorem Submission.settle_of_broken {s : Submission} (h : s.entry? = none) (policy : DuplicatePolicy) :
    ∃ reason, reason ≠ .duplicateJobId ∧
      ∀ held, s.settle policy held = (.rejected s.jobId reason, held) := by
  rcases s.admit_eq with ⟨-, reason, hreason, hresult⟩ | ⟨e, he, -⟩
  · refine ⟨reason, hreason, fun held => ?_⟩
    rw [Submission.settle, hresult]
  · rw [h] at he
    cases he

/-- A submission is rejected by the name of its job. -/
theorem Submission.jobId_of_settle {s : Submission} {policy : DuplicatePolicy} {held : Option Entry}
    {id : JobId} {reason : Rejection} (h : (s.settle policy held).1 = .rejected id reason) :
    s.jobId = id := by
  rw [settle] at h
  split at h
  · exact (IngestOutcome.rejected.inj h).1
  · cases h

/-- Putting an entry in changes what is held for its job only. -/
theorem Table.held_upsert (t : Table) (e : Entry) :
    (t.upsert e).table.held = Function.update t.held e.jobId (some e.undated) := by
  funext id
  rw [Table.held, Table.get?_upsert, Function.update_apply, Function.update_apply]
  split <;> rfl

/-- What becomes of a submission depends on what is held for its job, and changes nothing else. -/
theorem Table.takeIn_settle (t : Table) (policy : DuplicatePolicy) (s : Submission) (now : Instant) :
    (t.takeIn policy s now).1 = (s.settle policy (t.held s.jobId)).1 ∧
      (t.takeIn policy s now).2.held
        = Function.update t.held s.jobId (s.settle policy (t.held s.jobId)).2 := by
  rw [Table.takeIn, Submission.settle, Table.isSome_held]
  rcases s.admit_undated (t.contains s.jobId) policy now .epoch with
    ⟨reason, hnow, hepoch⟩ | ⟨a, a', hnow, hepoch, hentry⟩
  · rw [hnow, hepoch]
    exact ⟨rfl, (Function.update_eq_self _ _).symm⟩
  · have hid := Submission.jobId_of_admit hnow
    rw [hnow, hepoch]
    simp only [Table.isSome_upsert, Table.held_upsert, hid, hentry, and_self]

/-! ## One message -/

/-- What becomes of a message that holds a submission depends on what is held for its job, and
    changes nothing else. -/
theorem Intake.ingest_settle (i : Intake) {payload : Bytes} {s : Submission} (now : Instant)
    (h : Submission.decode payload = .ok s) :
    (i.ingest payload now).outcome = (s.settle i.options.duplicatePolicy (i.held s.jobId)).1 ∧
      (i.ingest payload now).intake.held
        = Function.update i.held s.jobId
            (s.settle i.options.duplicatePolicy (i.held s.jobId)).2 := by
  obtain ⟨houtcome, htable, -, -⟩ := i.ingest_of_decode now h
  obtain ⟨hsettled, hheld⟩ := i.registry.table.takeIn_settle i.options.duplicatePolicy s now
  refine ⟨houtcome.trans hsettled, ?_⟩
  funext id
  rw [Intake.held, htable, hheld]
  rfl

/-- A message that holds no submission changes nothing. -/
theorem Intake.ingest_undecodable (i : Intake) {payload : Bytes} {e : DecodeError} (now : Instant)
    (h : Submission.decode payload = .error e) :
    i.ingest payload now = i.turnDown (.undecodable e) := by
  rw [Intake.ingest, h]

/-- The options stay as they are, and each message is counted by its outcome. -/
theorem Intake.ingest_counted (i : Intake) (payload : Bytes) (now : Instant) :
    (i.ingest payload now).intake.options = i.options ∧
      (i.ingest payload now).intake.counts = i.counts.record (i.ingest payload now).outcome := by
  cases hdecode : Submission.decode payload with
  | error e =>
    rw [i.ingest_undecodable now hdecode]
    exact ⟨rfl, rfl⟩
  | ok s =>
    obtain ⟨houtcome, -, hcounts, hoptions⟩ := i.ingest_of_decode now hdecode
    exact ⟨hoptions, by rw [hcounts, houtcome]⟩

/-- A message leaves the entries of all jobs alone but for the one that it is about. -/
theorem Intake.get?_ingest_of_ne (i : Intake) {payload : Bytes} (now : Instant) {id : JobId}
    (h : jobOf? payload ≠ some id) :
    (i.ingest payload now).intake.registry.table.get? id = i.registry.table.get? id := by
  cases hdecode : Submission.decode payload with
  | error e =>
    rw [i.ingest_undecodable now hdecode]
    rfl
  | ok s =>
    have hne : id ≠ s.jobId := fun heq => h (heq ▸ jobOf?_of_decode hdecode)
    obtain ⟨-, htable, -, -⟩ := i.ingest_of_decode now hdecode
    rw [htable, Table.takeIn]
    cases hresult : s.admit (i.registry.table.contains s.jobId) i.options.duplicatePolicy now with
    | error reason => rfl
    | ok admitted =>
      dsimp only
      rw [Table.get?_upsert, Submission.jobId_of_admit hresult, Function.update_of_ne hne]

theorem Intake.held_ingest_of_ne (i : Intake) {payload : Bytes} (now : Instant) {id : JobId}
    (h : jobOf? payload ≠ some id) : (i.ingest payload now).intake.held id = i.held id :=
  congrArg (Option.map Entry.undated) (i.get?_ingest_of_ne now h)

/-- Two intakes that hold the same for the job of a message do the same with it. -/
theorem Intake.ingest_congr {i i' : Intake} (hoptions : i.options = i'.options) {payload : Bytes}
    (now now' : Instant) (h : ∀ id, jobOf? payload = some id → i.held id = i'.held id) :
    (i.ingest payload now).outcome = (i'.ingest payload now').outcome ∧
      ∀ id, i.held id = i'.held id →
        (i.ingest payload now).intake.held id = (i'.ingest payload now').intake.held id := by
  cases hdecode : Submission.decode payload with
  | error e =>
    rw [i.ingest_undecodable now hdecode, i'.ingest_undecodable now' hdecode]
    exact ⟨rfl, fun _ hid => hid⟩
  | ok s =>
    have hown := h s.jobId (jobOf?_of_decode hdecode)
    obtain ⟨houtcome, hheld⟩ := i.ingest_settle now hdecode
    obtain ⟨houtcome', hheld'⟩ := i'.ingest_settle now' hdecode
    refine ⟨?_, fun id hid => ?_⟩
    · rw [houtcome, houtcome', hoptions, hown]
    · rw [hheld, hheld', hoptions, hown, Function.update_apply, Function.update_apply, hid]

/-! ## Messages one after another -/

/-- Handles messages one after another, each at its time. -/
def Intake.ingestAll (i : Intake) : List (Bytes × Instant) → List IngestOutcome × Intake
  | [] => ([], i)
  | (payload, now) :: rest =>
    let handled := i.ingest payload now
    let (outcomes, after) := handled.intake.ingestAll rest
    (handled.outcome :: outcomes, after)

theorem Intake.ingestAll_cons (i : Intake) (payload : Bytes) (now : Instant)
    (rest : List (Bytes × Instant)) :
    i.ingestAll ((payload, now) :: rest)
      = ((i.ingest payload now).outcome :: ((i.ingest payload now).intake.ingestAll rest).1,
        ((i.ingest payload now).intake.ingestAll rest).2) := rfl

theorem Intake.ingestAll_append (i : Intake) (messages more : List (Bytes × Instant)) :
    i.ingestAll (messages ++ more)
      = ((i.ingestAll messages).1 ++ ((i.ingestAll messages).2.ingestAll more).1,
        ((i.ingestAll messages).2.ingestAll more).2) := by
  induction messages generalizing i with
  | nil => rfl
  | cons message rest ih =>
    obtain ⟨payload, now⟩ := message
    rw [List.cons_append, Intake.ingestAll_cons, Intake.ingestAll_cons, ih, List.cons_append]

theorem Intake.length_ingestAll (i : Intake) (messages : List (Bytes × Instant)) :
    (i.ingestAll messages).1.length = messages.length := by
  induction messages generalizing i with
  | nil => rfl
  | cons message rest ih =>
    rw [Intake.ingestAll_cons, List.length_cons, List.length_cons, ih]

theorem Intake.ingestAll_counted (i : Intake) (messages : List (Bytes × Instant)) :
    (i.ingestAll messages).2.options = i.options ∧
      (i.ingestAll messages).2.counts = (i.ingestAll messages).1.foldl IngestCounts.record i.counts := by
  induction messages generalizing i with
  | nil => exact ⟨rfl, rfl⟩
  | cons message rest ih =>
    obtain ⟨hoptions, hcounts⟩ := i.ingest_counted message.1 message.2
    obtain ⟨hoptions', hcounts'⟩ := ih (i.ingest message.1 message.2).intake
    rw [Intake.ingestAll_cons]
    refine ⟨hoptions'.trans hoptions, ?_⟩
    rw [List.foldl_cons, ← hcounts]
    exact hcounts'

end JobMonitor
