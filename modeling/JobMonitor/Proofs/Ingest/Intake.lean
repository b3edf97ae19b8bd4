import JobMonitor.Ingest.Intake

set_option autoImplicit false

/-! # Taking in without a channel

What becomes of a submission is said here without frames, texts and counts: it is judged by what is
registered and, if it is admitted, put into the table (`Table.takeIn`). A message that is decoded as a
submission is handled in this way. When submissions are taken in shows in their entries and nowhere
else (`Table.takeInAll_undated`). -/

namespace JobMonitor

/-! ## Judging and registering -/

/-- Judges a submission and, if it is admitted, puts its entry into the table. -/
def Table.takeIn (policy : DuplicatePolicy) (t : Table) (s : Submission) (now : Instant) :
    IngestOutcome × Table :=
  match s.admit (t.contains s.jobId) policy now with
  | .error reason => (.rejected s.jobId reason, t)
  | .ok admitted =>
    let put := t.upsert admitted.entry
    (.accepted s.jobId put.result.isSome, put.table)

/-- Takes in submissions one after another, each at its time. -/
def Table.takeInAll (policy : DuplicatePolicy) (t : Table) :
    List (Submission × Instant) → List IngestOutcome × Table
  | [] => ([], t)
  | (s, now) :: rest =>
    let (outcome, t) := t.takeIn policy s now
    let (outcomes, t) := t.takeInAll policy rest
    (outcome :: outcomes, t)

theorem Table.takeInAll_concat (policy : DuplicatePolicy) (t : Table)
    (judged : List (Submission × Instant)) (s : Submission) (now : Instant) :
    t.takeInAll policy (judged ++ [(s, now)])
      = ((t.takeInAll policy judged).1 ++ [((t.takeInAll policy judged).2.takeIn policy s now).1],
        ((t.takeInAll policy judged).2.takeIn policy s now).2) := by
  induction judged generalizing t with
  | nil => rfl
  | cons first rest ih =>
    obtain ⟨s', now'⟩ := first
    simp only [List.cons_append, takeInAll, ih]

/-- The entry of an admitted submission is that of its job. -/
theorem Submission.jobId_of_admit {s : Submission} {isRegistered : Bool} {policy : DuplicatePolicy}
    {now : Instant} {a : Admitted} (h : s.admit isRegistered policy now = .ok a) :
    a.entry.jobId = s.jobId := by
  unfold Submission.admit at h
  split at h
  · cases h
  · split at h
    · cases h
    · split at h
      · cases h
      · split at h
        · cases h
        · obtain rfl := Except.ok.inj h
          rfl

/-- A message that is decoded as a submission is judged and registered. -/
theorem Intake.ingest_of_decode (i : Intake) {payload : Bytes} {s : Submission} (now : Instant)
    (h : Submission.decode payload = .ok s) :
    let taken := i.registry.table.takeIn i.options.duplicatePolicy s now
    (i.ingest payload now).outcome = taken.1 ∧
      (i.ingest payload now).intake.registry.table = taken.2 ∧
      (i.ingest payload now).intake.counts = i.counts.record taken.1 ∧
      (i.ingest payload now).intake.options = i.options := by
  rw [ingest, h, Table.takeIn]
  simp only [judge]
  cases hadmit : s.admit (i.registry.table.contains s.jobId) i.options.duplicatePolicy now with
  | error reason => exact ⟨rfl, rfl, rfl, rfl⟩
  | ok admitted =>
    have hid := Submission.jobId_of_admit hadmit
    refine ⟨?_, rfl, ?_, rfl⟩
    · show IngestOutcome.accepted admitted.entry.jobId _ = _
      rw [hid]
      rfl
    · show i.counts.record (.accepted admitted.entry.jobId _) = _
      rw [hid]
      rfl

/-! ## The time of taking in -/

/-- The entry without the time at which it was taken in. -/
def Entry.undated (e : Entry) : Entry := { e with ingestedAt := .epoch }

/-- The entries of a table without the times at which they were taken in. -/
def Table.undated (t : Table) : List Entry := t.entries.map Entry.undated

theorem map_undated_placeEntry (e : Entry) (entries : List Entry) :
    (placeEntry e entries).map Entry.undated = placeEntry e.undated (entries.map Entry.undated) := by
  induction entries with
  | nil => rfl
  | cons first rest ih =>
    rw [placeEntry, List.map_cons, placeEntry]
    have hid : e.undated.jobId = e.jobId := rfl
    have hfirst : first.undated.jobId = first.jobId := rfl
    rw [hid, hfirst]
    split
    · rfl
    · split
      · rfl
      · rw [List.map_cons, ih]

theorem Table.contains_eq_undated (t : Table) (id : JobId) :
    t.contains id = t.undated.any (·.jobId = id) := by
  rw [contains, get?, undated, List.any_map, List.isSome_find?]
  rfl

theorem Table.isSome_upsert (t : Table) (e : Entry) :
    (t.upsert e).result.isSome = t.contains e.jobId := rfl

theorem Table.undated_upsert (t : Table) (e : Entry) :
    (t.upsert e).table.undated = placeEntry e.undated t.undated :=
  map_undated_placeEntry e t.entries

/-- What is admitted at another time differs in the time only. -/
theorem Submission.admit_undated (s : Submission) (isRegistered : Bool) (policy : DuplicatePolicy)
    (now now' : Instant) :
    (∃ reason, s.admit isRegistered policy now = .error reason ∧
        s.admit isRegistered policy now' = .error reason) ∨
      ∃ a a' : Admitted, s.admit isRegistered policy now = .ok a ∧
        s.admit isRegistered policy now' = .ok a' ∧ a.entry.undated = a'.entry.undated := by
  unfold Submission.admit
  split
  · exact .inl ⟨_, rfl, rfl⟩
  · split
    · exact .inl ⟨_, rfl, rfl⟩
    · split
      · exact .inl ⟨_, rfl, rfl⟩
      · split
        · exact .inl ⟨_, rfl, rfl⟩
        · exact .inr ⟨_, _, rfl, rfl, rfl⟩

theorem Table.takeIn_undated (policy : DuplicatePolicy) {t t' : Table} (h : t.undated = t'.undated)
    (s : Submission) (now now' : Instant) :
    (t.takeIn policy s now).1 = (t'.takeIn policy s now').1 ∧
      (t.takeIn policy s now).2.undated = (t'.takeIn policy s now').2.undated := by
  -- The duplicate rule asks which jobs there are, and not when they were taken in.
  have hcontains : ∀ id, t.contains id = t'.contains id := by
    intro id
    rw [Table.contains_eq_undated, Table.contains_eq_undated, h]
  rw [takeIn, takeIn, hcontains]
  rcases s.admit_undated (t'.contains s.jobId) policy now now' with
    ⟨reason, hat, hat'⟩ | ⟨a, a', hat, hat', hentry⟩
  · rw [hat, hat']
    exact ⟨rfl, h⟩
  · have hundated : a.entry.undated.jobId = a'.entry.undated.jobId := congrArg Entry.jobId hentry
    have hid : a.entry.jobId = a'.entry.jobId := hundated
    rw [hat, hat']
    simp only [Table.isSome_upsert, Table.undated_upsert, hcontains, hid, hentry, h, and_self]

/-- **When submissions are taken in shows in their entries and nowhere else.** -/
theorem Table.takeInAll_undated (policy : DuplicatePolicy) {t t' : Table}
    (h : t.undated = t'.undated) {judged judged' : List (Submission × Instant)}
    (hsame : judged.map Prod.fst = judged'.map Prod.fst) :
    (t.takeInAll policy judged).1 = (t'.takeInAll policy judged').1 ∧
      (t.takeInAll policy judged).2.undated = (t'.takeInAll policy judged').2.undated := by
  induction judged generalizing t t' judged' with
  | nil =>
    rw [List.map_nil] at hsame
    rw [List.map_eq_nil_iff.1 hsame.symm]
    exact ⟨rfl, h⟩
  | cons first rest ih =>
    obtain ⟨s, now⟩ := first
    cases judged' with
    | nil => exact absurd hsame (List.cons_ne_nil _ _)
    | cons first' rest' =>
      obtain ⟨s', now'⟩ := first'
      obtain ⟨rfl, hrest⟩ := List.cons.inj hsame
      obtain ⟨houtcome, htable⟩ := Table.takeIn_undated policy h s now now'
      obtain ⟨houtcomes, htables⟩ := ih htable hrest
      simp only [takeInAll, houtcome, houtcomes, htables, and_self]

/-! ## Counts -/

/-- Only frames that could not be judged are counted as malformed or dropped. -/
theorem Table.takeInAll_counts (policy : DuplicatePolicy) (t : Table)
    (judged : List (Submission × Instant)) (c : IngestCounts) :
    let counts := (t.takeInAll policy judged).1.foldl IngestCounts.record c
    counts.malformed = c.malformed ∧ counts.discarded = c.discarded := by
  induction judged generalizing t c with
  | nil => exact ⟨rfl, rfl⟩
  | cons first rest ih =>
    obtain ⟨s, now⟩ := first
    have hstep : (c.record (t.takeIn policy s now).1).malformed = c.malformed ∧
        (c.record (t.takeIn policy s now).1).discarded = c.discarded := by
      unfold takeIn
      split
      · exact ⟨rfl, rfl⟩
      · dsimp only
        cases (t.upsert _).result.isSome <;> exact ⟨rfl, rfl⟩
    obtain ⟨hmalformed, hdiscarded⟩ := ih (t.takeIn policy s now).2 (c.record (t.takeIn policy s now).1)
    exact ⟨hmalformed.trans hstep.1, hdiscarded.trans hstep.2⟩

end JobMonitor
