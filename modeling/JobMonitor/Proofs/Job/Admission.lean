import JobMonitor.Job.Admission
import JobMonitor.Proofs.Job.FirstOccurrences

set_option autoImplicit false

/-! # What the admission rules let through

All rules but the last look at the submission alone. A submission that keeps them has a normal entry
(`Submission.entry?`), and what is left to decide is whether its job may be registered (`admit_eq`).
The entry names every process once, by a positive number (`Entry.WellFormed`). -/

namespace JobMonitor

/-! ## Process ids -/

theorem Pid.ofInt64?_eq_some_iff {raw : Int64} {pid : Pid} :
    Pid.ofInt64? raw = some pid ↔ 1 ≤ pid.toInt ∧ pid.toInt = raw.toInt := by
  have hhigh : Int32.maxValue.toInt = 2147483647 := rfl
  rw [Pid.ofInt64?]
  split
  · next hrange =>
    have hnarrow : (Int32.ofInt raw.toInt).toInt = raw.toInt :=
      Int32.toInt_ofInt_of_le (by omega) (by omega)
    rw [Option.some_inj]
    constructor
    · rintro rfl
      exact ⟨by omega, hnarrow⟩
    · rintro ⟨-, hpid⟩
      rw [← hpid, Int32.ofInt_toInt]
  · next hrange =>
    have := pid.toInt_lt
    refine iff_of_false (Option.some_ne_none pid).symm fun hpid => hrange ?_
    omega

theorem Pid.isSome_ofInt64? {raw : Int64} :
    (Pid.ofInt64? raw).isSome ↔ 1 ≤ raw.toInt ∧ raw.toInt ≤ Int32.maxValue.toInt := by
  rw [Pid.ofInt64?]
  split
  · next hrange => exact iff_of_true rfl hrange
  · next hrange => exact iff_of_false Bool.false_ne_true hrange

/-- The process ids among some numbers, each where it occurs first. -/
def pidsOf (raws : List Int64) : List Pid := (raws.filterMap Pid.ofInt64?).eraseDups

/-- The ids are gathered behind those that are known, up to the first number that is none. -/
theorem admitPids_eq (seen : List Pid) (raws : List Int64) :
    admitPids seen.eraseDups raws
      = match raws.find? fun raw => (Pid.ofInt64? raw).isNone with
        | some raw => .error raw
        | none => .ok (seen ++ raws.filterMap Pid.ofInt64?).eraseDups := by
  induction raws generalizing seen with
  | nil => rw [admitPids, List.filterMap_nil, List.append_nil, List.find?_nil]
  | cons raw rest ih =>
    rw [admitPids]
    cases hpid : Pid.ofInt64? raw with
    | none => rw [List.find?_cons_of_pos (by rw [hpid]; rfl)]
    | some pid =>
      have hknown : (if pid ∈ seen.eraseDups then seen.eraseDups else seen.eraseDups ++ [pid])
          = (seen ++ [pid]).eraseDups := by
        rw [List.eraseDups_append]
        by_cases hseen : pid ∈ seen
        · simp [List.mem_eraseDups, List.removeAll, hseen]
        · simp [List.mem_eraseDups, List.removeAll, hseen, List.eraseDups_cons]
      dsimp only
      rw [hknown, ih, List.find?_cons_of_neg (by rw [hpid]; exact Bool.false_ne_true),
        List.filterMap_cons_some hpid, List.append_assoc, List.singleton_append]

/-! ## The rules that look at the submission alone -/

/-- The submission keeps the rules that do not ask what is registered. -/
structure Submission.KeepsRules (s : Submission) : Prop where
  hasProcesses : s.pids ≠ []
  pidsInRange : ∀ raw ∈ s.pids, 1 ≤ raw.toInt ∧ raw.toInt ≤ Int32.maxValue.toInt
  hasTime : s.createdAt.isValid = true

/-- The entry of a submission that keeps the rules, without the time at which it is taken in. -/
def Submission.entry? (s : Submission) : Option Entry :=
  match s.createdAt with
  | .valid createdAt =>
    if s.pids ≠ [] ∧ s.pids.all fun raw => (Pid.ofInt64? raw).isSome then
      some ⟨s.jobId, pidsOf s.pids, createdAt, .epoch⟩
    else none
  | .invalid _ => none

theorem Submission.isSome_entry?_iff {s : Submission} : s.entry?.isSome ↔ s.KeepsRules := by
  rw [Submission.entry?]
  cases htime : s.createdAt with
  | invalid raw =>
    refine iff_of_false Bool.false_ne_true fun h => ?_
    have := h.hasTime
    rw [htime] at this
    exact Bool.false_ne_true this
  | valid createdAt =>
    dsimp only
    split
    · next hpids =>
      refine iff_of_true rfl ⟨hpids.1, fun raw hraw => ?_, htime ▸ rfl⟩
      exact Pid.isSome_ofInt64?.1 (List.all_eq_true.1 hpids.2 raw hraw)
    · next hpids =>
      refine iff_of_false Bool.false_ne_true fun h =>
        hpids ⟨h.hasProcesses, List.all_eq_true.2 fun raw hraw => ?_⟩
      exact Pid.isSome_ofInt64?.2 (h.pidsInRange raw hraw)

theorem Submission.entry?_eq_none_iff {s : Submission} : s.entry? = none ↔ ¬ s.KeepsRules := by
  rw [← Submission.isSome_entry?_iff, Option.not_isSome_iff_eq_none]

instance (s : Submission) : Decidable s.KeepsRules := decidable_of_iff _ Submission.isSome_entry?_iff

/-- The entry is that of the job, with each of its processes once. -/
theorem Submission.exists_of_entry? {s : Submission} {e : Entry} (h : s.entry? = some e) :
    ∃ createdAt, (s.pids ≠ [] ∧ ∀ raw ∈ s.pids, (Pid.ofInt64? raw).isSome) ∧
      e = ⟨s.jobId, pidsOf s.pids, createdAt, .epoch⟩ := by
  rw [Submission.entry?] at h
  split at h
  · split at h
    · next createdAt _ hpids =>
      exact ⟨createdAt, hpids.imp_right List.all_eq_true.1, (Option.some.inj h).symm⟩
    · cases h
  · cases h

/-- A submission that breaks a rule is rejected for it, whatever is registered. Any other is rejected
    only because its job is registered, if it may not replace it. -/
theorem Submission.admit_eq (s : Submission) :
    (s.entry? = none ∧ ∃ reason, reason ≠ .duplicateJobId ∧
        ∀ isRegistered policy now, s.admit isRegistered policy now = .error reason) ∨
      ∃ e, s.entry? = some e ∧ ∀ isRegistered policy now, s.admit isRegistered policy now
        = if isRegistered ∧ ¬ s.isUpdate ∧ policy = .reject then .error .duplicateJobId
          else .ok ⟨{ e with ingestedAt := now }, isRegistered⟩ := by
  have hpids := admitPids_eq [] s.pids
  rw [List.eraseDups_nil, List.nil_append] at hpids
  simp only [Submission.entry?, Submission.admit]
  by_cases hempty : s.pids.isEmpty
  · refine .inl ⟨?_, .noProcesses, Rejection.noConfusion, fun _ _ _ => if_pos hempty⟩
    have hnil : s.pids = [] := List.isEmpty_iff.1 hempty
    cases s.createdAt with
    | valid createdAt => exact if_neg fun h => h.1 hnil
    | invalid raw => rfl
  · have hne : s.pids ≠ [] := fun hnil => hempty (List.isEmpty_iff.2 hnil)
    simp only [if_neg hempty, hpids]
    cases hfind : s.pids.find? fun raw => (Pid.ofInt64? raw).isNone with
    | some raw =>
      refine .inl ⟨?_, .invalidProcessId raw, Rejection.noConfusion, fun _ _ _ => rfl⟩
      have hnone := List.find?_some hfind
      have hsome : ¬ ∀ raw ∈ s.pids, (Pid.ofInt64? raw).isSome := by
        intro hall
        have := hall raw (List.mem_of_find?_eq_some hfind)
        rw [Option.isNone_iff_eq_none.1 hnone] at this
        exact Bool.false_ne_true this
      cases s.createdAt with
      | valid createdAt => exact if_neg fun h => hsome (List.all_eq_true.1 h.2)
      | invalid raw => rfl
    | none =>
      have hsome : ∀ raw ∈ s.pids, (Pid.ofInt64? raw).isSome := by
        intro raw hraw
        exact Option.isSome_iff_ne_none.2 fun hnone =>
          List.find?_eq_none.1 hfind raw hraw (Option.isNone_iff_eq_none.2 hnone)
      cases s.createdAt with
      | invalid raw =>
        exact .inl ⟨rfl, .invalidTimestamp raw, Rejection.noConfusion, fun _ _ _ => rfl⟩
      | valid createdAt => exact .inr ⟨_, if_pos ⟨hne, List.all_eq_true.2 hsome⟩, fun _ _ _ => rfl⟩

/-! ## Entries -/

/-- The entry is one that the rules let through: it names at least one process, each of them once
    and by a positive number. -/
structure Entry.WellFormed (e : Entry) : Prop where
  hasProcesses : e.pids ≠ []
  nodup : e.pids.Nodup
  inRange : ∀ pid ∈ e.pids, 1 ≤ pid.toInt ∧ pid.toInt ≤ Int32.maxValue.toInt

theorem Submission.wellFormed_of_entry? {s : Submission} {e : Entry} (h : s.entry? = some e) :
    e.WellFormed := by
  obtain ⟨createdAt, ⟨hne, hsome⟩, rfl⟩ := Submission.exists_of_entry? h
  refine ⟨?_, (isFirstOccurrences_eraseDups _).nodup, fun pid hpid => ?_⟩
  · -- The first number of the list is the id of a process.
    obtain ⟨raw, rest, hcons⟩ := List.exists_cons_of_ne_nil hne
    have hraw : raw ∈ s.pids := by
      rw [hcons]
      exact List.mem_cons_self
    obtain ⟨pid, hpid⟩ := Option.isSome_iff_exists.1 (hsome raw hraw)
    exact List.ne_nil_of_mem (List.mem_eraseDups.2 (List.mem_filterMap.2 ⟨raw, hraw, hpid⟩))
  · obtain ⟨raw, -, hraw⟩ := List.mem_filterMap.1 (List.mem_eraseDups.1 hpid)
    exact ⟨(Pid.ofInt64?_eq_some_iff.1 hraw).1, pid.toInt_le⟩

/-- Whatever is admitted has a well-formed entry. -/
theorem Submission.wellFormed_of_admit {s : Submission} {isRegistered : Bool}
    {policy : DuplicatePolicy} {now : Instant} {a : Admitted}
    (h : s.admit isRegistered policy now = .ok a) : a.entry.WellFormed := by
  rcases s.admit_eq with ⟨-, reason, -, hresult⟩ | ⟨e, he, hresult⟩
  · rw [hresult] at h
    cases h
  · rw [hresult] at h
    split at h
    · cases h
    · obtain rfl := Except.ok.inj h
      have hwell := Submission.wellFormed_of_entry? he
      exact ⟨hwell.hasProcesses, hwell.nodup, hwell.inRange⟩

end JobMonitor
