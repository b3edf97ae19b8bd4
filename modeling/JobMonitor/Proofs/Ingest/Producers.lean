import Mathlib.Data.List.Perm.Basic
import JobMonitor.Proofs.Ingest.Locality

set_option autoImplicit false

/-! # Producers of different jobs

Two producers send messages, and those of one are about no job that those of the other are about. In
which order the messages of the one come between those of the other then makes no difference: to each
producer it is as if it were alone (`Intake.alone`), so that its messages meet with the same outcomes,
and what is registered and counted in the end is the same as well (`producers_independent`). -/

namespace JobMonitor

/-! ## Tables that hold the same -/

theorem Table.mem_undated_iff {t : Table} {e : Entry} :
    e ∈ t.undated ↔ t.held e.jobId = some e := by
  rw [Table.undated, List.mem_map, Table.held, Option.map_eq_some_iff]
  constructor
  · rintro ⟨x, hx, rfl⟩
    exact ⟨x, Table.get?_eq_some_iff.2 hx, rfl⟩
  · rintro ⟨x, hx, hundated⟩
    exact ⟨x, Table.mem_of_get? hx, hundated⟩

theorem Table.ordered_undated (t : Table) : Ordered t.undated :=
  List.pairwise_map.2 t.ordered

/-- What is held for each job determines the entries, as they stand in order. -/
theorem Table.undated_eq_of_held {t t' : Table} (h : ∀ id, t.held id = t'.held id) :
    t.undated = t'.undated := by
  have hnodup : ∀ t : Table, t.undated.Nodup := fun t =>
    t.ordered_undated.imp fun hlt heq => Int64.ne_of_lt hlt (congrArg Entry.jobId heq)
  have hperm : t.undated.Perm t'.undated := by
    rw [List.perm_ext_iff_of_nodup (hnodup t) (hnodup t')]
    intro e
    rw [Table.mem_undated_iff, Table.mem_undated_iff, h]
  refine List.Perm.eq_of_pairwise ?_ t.ordered_undated t'.ordered_undated hperm
  intro a b _ _ hab hba
  exact (Int64.lt_irrefl (Int64.lt_trans hab hba)).elim

/-! ## Counting in another order -/

instance : RightCommutative IngestCounts.record where
  right_comm c o o' := by
    rcases o with ⟨_, _ | _⟩ | _ | _ | _ <;> rcases o' with ⟨_, _ | _⟩ | _ | _ | _ <;> rfl

/-! ## Two producers -/

/-- One of two producers. -/
inductive Producer where
  | first
  | second
deriving DecidableEq, Repr

/-- A message of a producer, and the time at which it is handled. -/
structure Arrival where
  producer : Producer
  payload : Bytes
  now : Instant

/-- The message without its producer. -/
def Arrival.message (a : Arrival) : Bytes × Instant := (a.payload, a.now)

/-- What a producer has sent, in order. -/
def sentBy (p : Producer) (schedule : List Arrival) : List Bytes :=
  (schedule.filter (·.producer = p)).map Arrival.payload

/-- The messages arrive one between the other, those of each producer in their own order. -/
structure Interleaves (first second : List Bytes) (schedule : List Arrival) : Prop where
  sentByFirst : sentBy .first schedule = first
  sentBySecond : sentBy .second schedule = second

/-- Handles messages in the order of their arrival. -/
def Intake.ingestSchedule (i : Intake) (schedule : List Arrival) : List IngestOutcome × Intake :=
  i.ingestAll (schedule.map Arrival.message)

/-- What becomes of the messages of a producer, in order. -/
def Intake.outcomesFor (i : Intake) (schedule : List Arrival) (p : Producer) : List IngestOutcome :=
  ((schedule.zip (i.ingestSchedule schedule).1).filter (·.1.producer = p)).map Prod.snd

/-- Handles some messages without any others between them. When that happens does not matter. -/
def Intake.alone (i : Intake) (payloads : List Bytes) : List IngestOutcome × Intake :=
  i.ingestAll (payloads.map fun payload => (payload, .epoch))

theorem sentBy_cons (p : Producer) (a : Arrival) (rest : List Arrival) :
    sentBy p (a :: rest)
      = if a.producer = p then a.payload :: sentBy p rest else sentBy p rest := by
  by_cases hp : a.producer = p
  · rw [sentBy, List.filter_cons_of_pos (by simpa using hp), List.map_cons, if_pos hp]
    rfl
  · rw [sentBy, List.filter_cons_of_neg (by simpa using hp), if_neg hp]
    rfl

theorem Intake.outcomesFor_cons (i : Intake) (a : Arrival) (rest : List Arrival) (p : Producer) :
    i.outcomesFor (a :: rest) p
      = if a.producer = p then
          (i.ingest a.payload a.now).outcome :: (i.ingest a.payload a.now).intake.outcomesFor rest p
        else (i.ingest a.payload a.now).intake.outcomesFor rest p := by
  rw [outcomesFor, ingestSchedule, List.map_cons, Arrival.message, ingestAll_cons, List.zip_cons_cons]
  by_cases hp : a.producer = p
  · rw [List.filter_cons_of_pos (by simpa using hp), List.map_cons, if_pos hp]
    rfl
  · rw [List.filter_cons_of_neg (by simpa using hp), if_neg hp]
    rfl

theorem mem_sentBy {a : Arrival} {schedule : List Arrival} (h : a ∈ schedule) :
    a.payload ∈ sentBy a.producer schedule :=
  List.mem_map.2 ⟨a, List.mem_filter.2 ⟨h, by simp⟩, rfl⟩

/-- A job that none of the messages is about keeps its entry. -/
theorem Intake.held_ingestSchedule_of_ne (i : Intake) {schedule : List Arrival} {id : JobId}
    (h : ∀ a ∈ schedule, jobOf? a.payload ≠ some id) :
    (i.ingestSchedule schedule).2.held id = i.held id := by
  induction schedule generalizing i with
  | nil => rfl
  | cons a rest ih =>
    refine (ih (i.ingest a.payload a.now).intake fun b hb => h b (List.mem_cons_of_mem _ hb)).trans ?_
    exact i.held_ingest_of_ne a.now (h a List.mem_cons_self)

/-- **To each producer it is as if it were alone**, on an intake that holds the same for the jobs that
    its messages are about. -/
theorem Intake.alone_of_disjoint {p : Producer} {jobs : JobId → Prop} {schedule : List Arrival}
    (hown : ∀ a ∈ schedule, a.producer = p → ∀ id, jobOf? a.payload = some id → jobs id)
    (hother : ∀ a ∈ schedule, a.producer ≠ p → ∀ id, jobs id → jobOf? a.payload ≠ some id)
    {i i' : Intake} (hoptions : i.options = i'.options) (h : ∀ id, jobs id → i.held id = i'.held id) :
    i.outcomesFor schedule p = (i'.alone (sentBy p schedule)).1 ∧
      ∀ id, jobs id →
        (i.ingestSchedule schedule).2.held id = (i'.alone (sentBy p schedule)).2.held id := by
  induction schedule generalizing i i' with
  | nil => exact ⟨rfl, h⟩
  | cons a rest ih =>
    have hrest := @ih (fun b hb => hown b (List.mem_cons_of_mem _ hb))
      (fun b hb => hother b (List.mem_cons_of_mem _ hb)) (i.ingest a.payload a.now).intake
    have hkept := (i.ingest_counted a.payload a.now).1
    rw [i.outcomesFor_cons, sentBy_cons]
    by_cases hp : a.producer = p
    · -- The message comes next when the producer is alone as well.
      have hagree : ∀ id, jobOf? a.payload = some id → i.held id = i'.held id :=
        fun id hid => h id (hown a List.mem_cons_self hp id hid)
      obtain ⟨houtcome, hheld⟩ := Intake.ingest_congr hoptions a.now .epoch hagree
      obtain ⟨houtcomes, hafter⟩ := @hrest (i'.ingest a.payload .epoch).intake
        (hkept.trans (hoptions.trans (i'.ingest_counted a.payload .epoch).1.symm))
        fun id hid => hheld id (h id hid)
      rw [if_pos hp, if_pos hp, houtcome, houtcomes]
      exact ⟨rfl, hafter⟩
    · -- The message is about none of the jobs.
      rw [if_neg hp, if_neg hp]
      refine @hrest i' (hkept.trans hoptions) fun id hid => ?_
      exact (i.held_ingest_of_ne a.now (hother a List.mem_cons_self hp id hid)).trans (h id hid)

/-- All outcomes are those of the first producer and those of the second. -/
theorem Intake.outcomes_perm (i : Intake) (schedule : List Arrival) :
    (i.outcomesFor schedule .first ++ i.outcomesFor schedule .second).Perm
      (i.ingestSchedule schedule).1 := by
  have hlength : (i.ingestSchedule schedule).1.length = schedule.length := by
    rw [Intake.ingestSchedule, Intake.length_ingestAll, List.length_map]
  have hsecond : ∀ x : Arrival × IngestOutcome,
      decide (x.1.producer = .second) = !decide (x.1.producer = .first) := by
    intro x
    cases x.1.producer <;> rfl
  have hall := (List.filter_append_perm (fun x : Arrival × IngestOutcome => x.1.producer = .first)
    (schedule.zip (i.ingestSchedule schedule).1)).map Prod.snd
  rw [List.map_append, List.map_snd_zip (Nat.le_of_eq hlength)] at hall
  simpa only [Intake.outcomesFor, hsecond] using hall

/-! ## Interleavings -/

/-- The jobs that some messages are about. -/
def jobsOf (payloads : List Bytes) : List JobId := payloads.filterMap jobOf?

variable {first second : List Bytes}

/-- Producers of different jobs: to each of the two it is as if it were alone, and the entry of a job
    that none of their messages is about stays. -/
theorem Interleaves.alone {schedule : List Arrival} (h : Interleaves first second schedule)
    (hdisjoint : ∀ id ∈ jobsOf first, id ∉ jobsOf second) (start : Intake) :
    (start.outcomesFor schedule .first = (start.alone first).1 ∧
        ∀ id ∈ jobsOf first,
          (start.ingestSchedule schedule).2.held id = (start.alone first).2.held id) ∧
      (start.outcomesFor schedule .second = (start.alone second).1 ∧
        ∀ id ∈ jobsOf second,
          (start.ingestSchedule schedule).2.held id = (start.alone second).2.held id) ∧
      ∀ id, id ∉ jobsOf first → id ∉ jobsOf second →
        (start.ingestSchedule schedule).2.held id = start.held id := by
  obtain ⟨rfl, rfl⟩ := h
  have hfirst : ∀ a ∈ schedule, a.producer = .first → ∀ id, jobOf? a.payload = some id →
      id ∈ jobsOf (sentBy .first schedule) :=
    fun a ha hp _ hid => List.mem_filterMap.2 ⟨a.payload, hp ▸ mem_sentBy ha, hid⟩
  have hsecond : ∀ a ∈ schedule, a.producer = .second → ∀ id, jobOf? a.payload = some id →
      id ∈ jobsOf (sentBy .second schedule) :=
    fun a ha hp _ hid => List.mem_filterMap.2 ⟨a.payload, hp ▸ mem_sentBy ha, hid⟩
  refine ⟨?_, ?_, fun id hnotFirst hnotSecond => ?_⟩
  · refine Intake.alone_of_disjoint hfirst (fun a ha hp id hid haid => ?_) rfl fun _ _ => rfl
    cases hother : a.producer with
    | first => exact hp hother
    | second => exact hdisjoint id hid (hsecond a ha hother id haid)
  · refine Intake.alone_of_disjoint hsecond (fun a ha hp id hid haid => ?_) rfl fun _ _ => rfl
    cases hother : a.producer with
    | first => exact hdisjoint id (hfirst a ha hother id haid) hid
    | second => exact hp hother
  · refine start.held_ingestSchedule_of_ne fun a ha haid => ?_
    cases hproducer : a.producer with
    | first => exact hnotFirst (hfirst a ha hproducer id haid)
    | second => exact hnotSecond (hsecond a ha hproducer id haid)

/-- **Producers of different jobs do not depend on the order of their messages.** In whichever of two
    orders the messages of two such producers arrive, each of them meets with the same outcome, the
    same is counted, and the same entries are registered in the end, up to the times at which they were
    taken in. For a message changes the entry of the job that it is about and no other. -/
theorem producers_independent (start : Intake) {schedule schedule' : List Arrival}
    (hdisjoint : ∀ id ∈ jobsOf first, id ∉ jobsOf second)
    (h : Interleaves first second schedule) (h' : Interleaves first second schedule') :
    (∀ p, start.outcomesFor schedule p = start.outcomesFor schedule' p) ∧
      (start.ingestSchedule schedule).2.counts = (start.ingestSchedule schedule').2.counts ∧
      (start.ingestSchedule schedule).2.registry.table.undated
        = (start.ingestSchedule schedule').2.registry.table.undated ∧
      ∀ (i : Intake) (payload : Bytes) (now : Instant) (id : JobId), jobOf? payload ≠ some id →
        (i.ingest payload now).intake.registry.table.get? id = i.registry.table.get? id := by
  obtain ⟨⟨hfirst, hheldFirst⟩, ⟨hsecond, hheldSecond⟩, hother⟩ := h.alone hdisjoint start
  obtain ⟨⟨hfirst', hheldFirst'⟩, ⟨hsecond', hheldSecond'⟩, hother'⟩ := h'.alone hdisjoint start
  have houtcomes : ∀ p, start.outcomesFor schedule p = start.outcomesFor schedule' p := by
    intro p
    cases p with
    | first => rw [hfirst, hfirst']
    | second => rw [hsecond, hsecond']
  refine ⟨houtcomes, ?_, ?_, fun i _ now _ hid => i.get?_ingest_of_ne now hid⟩
  · have hperm : (start.ingestSchedule schedule).1.Perm (start.ingestSchedule schedule').1 := by
      refine (start.outcomes_perm schedule).symm.trans ?_
      rw [houtcomes, houtcomes]
      exact start.outcomes_perm schedule'
    rw [Intake.ingestSchedule, Intake.ingestSchedule, (start.ingestAll_counted _).2,
      (start.ingestAll_counted _).2]
    exact hperm.foldl_eq _
  · refine Table.undated_eq_of_held fun id => ?_
    show (start.ingestSchedule schedule).2.held id = (start.ingestSchedule schedule').2.held id
    by_cases hidFirst : id ∈ jobsOf first
    · rw [hheldFirst id hidFirst, hheldFirst' id hidFirst]
    · by_cases hidSecond : id ∈ jobsOf second
      · rw [hheldSecond id hidSecond, hheldSecond' id hidSecond]
      · rw [hother id hidFirst hidSecond, hother' id hidFirst hidSecond]

/-- Job 1 is submitted twice, and job 2 between two messages that come to nothing: a submission without
    processes and a record that makes no submission. -/
def twoJobs : List Arrival :=
  [⟨.first, (Submission.mk 1 [10] (.valid .epoch) false).toRecord.bytes, .epoch⟩,
    ⟨.second, (Submission.mk 2 [] (.valid .epoch) true).toRecord.bytes, .epoch⟩,
    ⟨.second, (Submission.mk 2 [20] (.valid .epoch) false).toRecord.bytes, .epoch⟩,
    ⟨.first, (Submission.mk 1 [11] (.valid .epoch) false).toRecord.bytes, .epoch⟩,
    ⟨.second, (SubmissionRecord.mk (some 1) none none true).bytes, .epoch⟩]

/-- The messages about job 2 come first. -/
def secondJobFirst : List Arrival :=
  twoJobs.filter (·.producer = .second) ++ twoJobs.filter (·.producer = .first)

theorem producers_independent_two_jobs :
    let start : Intake := ⟨{}, Registry.new 1, {}⟩
    let first := sentBy .first twoJobs
    let second := sentBy .second twoJobs
    ((∀ id ∈ jobsOf first, id ∉ jobsOf second) ∧ jobsOf first = [1, 1] ∧ jobsOf second = [2, 2]) ∧
      (Interleaves first second twoJobs ∧ Interleaves first second secondJobFirst) ∧
      (∀ p, start.outcomesFor twoJobs p = start.outcomesFor secondJobFirst p) ∧
      (start.ingestSchedule twoJobs).2.counts = (start.ingestSchedule secondJobFirst).2.counts ∧
      (start.ingestSchedule twoJobs).2.registry.table.undated
        = (start.ingestSchedule secondJobFirst).2.registry.table.undated := by
  intro start first second
  have hfirst : jobsOf first = [1, 1] := by decide +kernel
  have hsecond : jobsOf second = [2, 2] := by decide +kernel
  have hdisjoint : ∀ id ∈ jobsOf first, id ∉ jobsOf second := by
    rw [hfirst, hsecond]
    simp
  have hearly : Interleaves first second twoJobs := ⟨rfl, rfl⟩
  have hlate : Interleaves first second secondJobFirst := ⟨rfl, rfl⟩
  obtain ⟨houtcomes, hcounts, htable, -⟩ := producers_independent start hdisjoint hearly hlate
  exact ⟨⟨hdisjoint, hfirst, hsecond⟩, ⟨hearly, hlate⟩, houtcomes, hcounts, htable⟩

end JobMonitor
