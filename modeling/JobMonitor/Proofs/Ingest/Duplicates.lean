import Mathlib.Data.List.Induction
import JobMonitor.Proofs.Ingest.Locality

set_option autoImplicit false

/-! # Which submission of a job prevails

Of all the messages for a job that an intake has been handed, some hold a submission that keeps the
rules (`validFor?`). The entry that is held in the end is that of one of them, and which one it is can
be said without going through the run (`DuplicatePolicy.prevailing`): under the policy to overwrite it
is the last, under the policy to reject the last update or, without one, the first. -/

namespace JobMonitor

/-! ## The submission that prevails -/

/-- The submission of a job in a payload, if the payload holds one and it keeps the rules that look at
    it alone. -/
def validFor? (id : JobId) (payload : Bytes) : Option Submission :=
  match Submission.decode payload with
  | .ok s => if s.jobId = id ∧ s.KeepsRules then some s else none
  | .error _ => none

/-- Which of the submissions of a job has its entry in the table after all of them. -/
def DuplicatePolicy.prevailing (policy : DuplicatePolicy) (valid : List Submission) :
    Option Submission :=
  match policy with
  | .overwrite => valid.getLast?
  | .reject => (valid.filter (·.isUpdate)).getLast?.or valid.head?

theorem validFor?_eq_some_iff {id : JobId} {payload : Bytes} {s : Submission} :
    validFor? id payload = some s ↔
      Submission.decode payload = .ok s ∧ s.jobId = id ∧ s.KeepsRules := by
  rw [validFor?]
  cases Submission.decode payload with
  | error e => simp
  | ok t =>
    dsimp only
    split
    · next hvalid =>
      rw [Option.some_inj]
      constructor
      · rintro rfl
        exact ⟨rfl, hvalid⟩
      · rintro ⟨h, -⟩
        exact Except.ok.inj h
    · next hvalid =>
      refine iff_of_false (Option.some_ne_none s).symm ?_
      rintro ⟨h, hs⟩
      obtain rfl := Except.ok.inj h
      exact hvalid hs

/-- One more submission prevails, unless the policy is to reject, the submission is no update and
    there is another one. -/
theorem DuplicatePolicy.prevailing_concat (policy : DuplicatePolicy) (valid : List Submission)
    (s : Submission) :
    policy.prevailing (valid ++ [s])
      = if valid ≠ [] ∧ ¬ s.isUpdate ∧ policy = .reject then policy.prevailing valid
        else some s := by
  cases policy with
  | overwrite =>
    rw [if_neg fun h => DuplicatePolicy.noConfusion h.2.2, prevailing, List.getLast?_concat]
  | reject =>
    rw [prevailing, prevailing, List.filter_append]
    cases hupdate : s.isUpdate with
    | true => simp [hupdate]
    | false =>
      cases valid with
      | nil => simp [hupdate]
      | cons first rest => simp [hupdate]

/-- The entry of a submission that keeps the rules is there as soon as there is one. -/
theorem DuplicatePolicy.isSome_entry?_prevailing (policy : DuplicatePolicy) {valid : List Submission}
    (h : ∀ s ∈ valid, s.KeepsRules) :
    ((policy.prevailing valid).bind Submission.entry?).isSome ↔ valid ≠ [] := by
  induction valid using List.reverseRecOn with
  | nil => cases policy <;> simp [prevailing]
  | append_singleton front s ih =>
    have hfront : ∀ s ∈ front, s.KeepsRules := fun s hs => h s (List.mem_append_left _ hs)
    rw [prevailing_concat]
    refine iff_of_true ?_ (List.append_ne_nil_of_right_ne_nil _ (List.cons_ne_nil s []))
    split
    · next hduplicate => exact (ih hfront).2 hduplicate.1
    · exact Submission.isSome_entry?_iff.2 (h s (List.mem_append_right _ List.mem_cons_self))

/-! ## One message -/

/-- A message without a submission of the job that keeps the rules leaves the entry of the job, and is
    not turned down as a duplicate of it. -/
theorem Intake.ingest_of_not_valid (i : Intake) {payload : Bytes} (now : Instant) {id : JobId}
    (h : validFor? id payload = none) :
    (i.ingest payload now).outcome ≠ .rejected id .duplicateJobId ∧
      (i.ingest payload now).intake.held id = i.held id := by
  cases hdecode : Submission.decode payload with
  | error e =>
    rw [i.ingest_undecodable now hdecode]
    exact ⟨IngestOutcome.noConfusion, rfl⟩
  | ok s =>
    obtain ⟨houtcome, hheld⟩ := i.ingest_settle now hdecode
    by_cases hid : s.jobId = id
    · have hbroken : s.entry? = none := by
        refine Submission.entry?_eq_none_iff.2 fun hkeeps => ?_
        exact Option.some_ne_none s ((validFor?_eq_some_iff.2 ⟨hdecode, hid, hkeeps⟩).symm.trans h)
      obtain ⟨reason, hreason, hsettle⟩ := Submission.settle_of_broken hbroken i.options.duplicatePolicy
      rw [houtcome, hheld, hsettle, Function.update_eq_self]
      exact ⟨fun h => hreason (IngestOutcome.rejected.inj h).2, rfl⟩
    · rw [houtcome, hheld, Function.update_of_ne (Ne.symm hid)]
      exact ⟨fun h => hid (Submission.jobId_of_settle h), rfl⟩

/-- A message with one puts in its entry, unless it is turned down as a duplicate. -/
theorem Intake.ingest_of_valid (i : Intake) {payload : Bytes} (now : Instant) {id : JobId}
    {s : Submission} (h : validFor? id payload = some s) :
    if (i.held id).isSome ∧ ¬ s.isUpdate ∧ i.options.duplicatePolicy = .reject then
      (i.ingest payload now).outcome = .rejected id .duplicateJobId ∧
        (i.ingest payload now).intake.held id = i.held id
    else
      (i.ingest payload now).outcome = .accepted id (i.held id).isSome ∧
        (i.ingest payload now).intake.held id = s.entry? := by
  obtain ⟨hdecode, rfl, hkeeps⟩ := validFor?_eq_some_iff.1 h
  obtain ⟨e, hentry⟩ := Option.isSome_iff_exists.1 (Submission.isSome_entry?_iff.2 hkeeps)
  obtain ⟨houtcome, hheld⟩ := i.ingest_settle now hdecode
  rw [houtcome, hheld, Function.update_self, Submission.settle_of_entry? hentry, hentry]
  split <;> exact ⟨rfl, rfl⟩

/-- When a message is turned down as a duplicate. -/
theorem Intake.ingest_duplicate_iff (i : Intake) (payload : Bytes) (now : Instant) (id : JobId) :
    (i.ingest payload now).outcome = .rejected id .duplicateJobId ↔
      (i.held id).isSome ∧ i.options.duplicatePolicy = .reject ∧
        ∃ s, validFor? id payload = some s ∧ s.isUpdate = false := by
  cases hvalid : validFor? id payload with
  | none =>
    refine iff_of_false (i.ingest_of_not_valid now hvalid).1 ?_
    rintro ⟨-, -, s, hs, -⟩
    cases hs
  | some s =>
    have hingest := i.ingest_of_valid now hvalid
    split at hingest
    · next hduplicate =>
      exact iff_of_true hingest.1
        ⟨hduplicate.1, hduplicate.2.2, s, rfl, Bool.eq_false_iff.2 hduplicate.2.1⟩
    · next hduplicate =>
      rw [hingest.1]
      refine iff_of_false IngestOutcome.noConfusion ?_
      rintro ⟨hheld, hpolicy, t, ht, hupdate⟩
      obtain rfl := Option.some.inj ht
      exact hduplicate ⟨hheld, Bool.eq_false_iff.1 hupdate, hpolicy⟩

/-! ## Messages one after another -/

/-- The submissions of a job among some messages that keep the rules, in order. -/
def validOf (id : JobId) (messages : List (Bytes × Instant)) : List Submission :=
  messages.filterMap fun m => validFor? id m.1

theorem keepsRules_of_mem_validOf {id : JobId} {messages : List (Bytes × Instant)} {s : Submission}
    (h : s ∈ validOf id messages) : s.KeepsRules := by
  obtain ⟨m, -, hm⟩ := List.mem_filterMap.1 h
  exact (validFor?_eq_some_iff.1 hm).2.2

theorem validOf_ne_nil_iff {id : JobId} {messages : List (Bytes × Instant)} :
    validOf id messages ≠ [] ↔ ∃ m ∈ messages, (validFor? id m.1).isSome := by
  rw [validOf, Ne, List.filterMap_eq_nil_iff]
  simp [Option.isSome_iff_ne_none]

variable {start : Intake}

/-- If nothing is held at the start, what is held in the end is the entry of the submission that
    prevails. -/
theorem Intake.held_ingestAll (hstart : ∀ id, start.held id = none) (id : JobId)
    (messages : List (Bytes × Instant)) :
    (start.ingestAll messages).2.held id
      = (start.options.duplicatePolicy.prevailing (validOf id messages)).bind Submission.entry? := by
  induction messages using List.reverseRecOn with
  | nil =>
    have hnone : start.options.duplicatePolicy.prevailing [] = none := by
      cases start.options.duplicatePolicy <;> rfl
    exact (hstart id).trans (by rw [validOf, List.filterMap_nil, hnone]; rfl)
  | append_singleton front m ih =>
    obtain ⟨payload, now⟩ := m
    have hoptions := (start.ingestAll_counted front).1
    have hkeeps : ∀ s ∈ validOf id front, s.KeepsRules := fun _ => keepsRules_of_mem_validOf
    have hisSome := start.options.duplicatePolicy.isSome_entry?_prevailing hkeeps
    rw [Intake.ingestAll_append]
    show ((start.ingestAll front).2.ingest payload now).intake.held id = _
    cases hvalid : validFor? id payload with
    | none =>
      have hsame : validOf id (front ++ [(payload, now)]) = validOf id front := by
        simp [validOf, hvalid]
      rw [(Intake.ingest_of_not_valid _ now hvalid).2, ih, hsame]
    | some s =>
      have hmore : validOf id (front ++ [(payload, now)]) = validOf id front ++ [s] := by
        simp [validOf, hvalid]
      have hingest := (start.ingestAll front).2.ingest_of_valid now hvalid
      rw [ih, hoptions] at hingest
      rw [hmore, DuplicatePolicy.prevailing_concat]
      simp only [hisSome] at hingest
      split at hingest
      · next hduplicate => rw [hingest.2, if_pos hduplicate]
      · next hduplicate =>
        rw [hingest.2, if_neg hduplicate]
        rfl

/-- What becomes of a message of a run is decided by the messages in front of it. -/
theorem Intake.getElem?_ingestAll (i : Intake) (messages : List (Bytes × Instant)) (n : Nat) :
    (i.ingestAll messages).1[n]?
      = messages[n]?.map fun m => ((i.ingestAll (messages.take n)).2.ingest m.1 m.2).outcome := by
  induction messages generalizing i n with
  | nil => rfl
  | cons m rest ih =>
    rw [Intake.ingestAll_cons]
    cases n with
    | zero => rfl
    | succ n => exact ih (i.ingest m.1 m.2).intake n

/-- **Which submission prevails over a run.** Messages are handled one after another by an intake with
    an empty registry. Of the submissions of a job that keep the rules, the entry of the one that
    prevails is registered in the end, so that there is an entry exactly if there is such a
    submission. A message is turned down as a duplicate exactly if the policy is to reject and it
    holds such a submission that is no update and comes after another one of its job. -/
theorem duplicates_settled (options : IngestOptions) (feed : Feed Change)
    (messages : List (Bytes × Instant)) (id : JobId) :
    let run := (Intake.mk options ⟨.empty, feed⟩ {}).ingestAll messages
    run.2.held id
        = (options.duplicatePolicy.prevailing (validOf id messages)).bind Submission.entry? ∧
      (run.2.registry.table.get? id = none ↔ ∀ m ∈ messages, validFor? id m.1 = none) ∧
      ∀ n : Nat, run.1[n]? = some (.rejected id .duplicateJobId) ↔
        options.duplicatePolicy = .reject ∧
          (∃ m s, messages[n]? = some m ∧ validFor? id m.1 = some s ∧ s.isUpdate = false) ∧
          ∃ earlier ∈ messages.take n, (validFor? id earlier.1).isSome := by
  intro run
  have hempty : ∀ id, (Intake.mk options ⟨.empty, feed⟩ {}).held id = none := fun _ => rfl
  have hheld := Intake.held_ingestAll hempty id
  have hisSome : ∀ messages, (((Intake.mk options ⟨.empty, feed⟩ {}).ingestAll messages).2.held id).isSome
      ↔ ∃ m ∈ messages, (validFor? id m.1).isSome := by
    intro messages
    rw [hheld messages, ← validOf_ne_nil_iff]
    exact options.duplicatePolicy.isSome_entry?_prevailing fun _ => keepsRules_of_mem_validOf
  refine ⟨hheld messages, ?_, fun n => ?_⟩
  · have hnone : run.2.held id = none ↔ run.2.registry.table.get? id = none := Option.map_eq_none_iff
    rw [← hnone, ← Option.not_isSome_iff_eq_none, hisSome]
    simp
  · rw [Intake.getElem?_ingestAll, Option.map_eq_some_iff]
    have hoptions := ((Intake.mk options ⟨.empty, feed⟩ {}).ingestAll_counted (messages.take n)).1
    simp only [Intake.ingest_duplicate_iff, hoptions, hisSome]
    constructor
    · rintro ⟨m, hm, hearlier, hpolicy, s, hs, hupdate⟩
      exact ⟨hpolicy, ⟨m, s, hm, hs, hupdate⟩, hearlier⟩
    · rintro ⟨hpolicy, ⟨m, s, hm, hs, hupdate⟩, hearlier⟩
      exact ⟨m, hm, hearlier, hpolicy, s, hs, hupdate⟩

end JobMonitor
