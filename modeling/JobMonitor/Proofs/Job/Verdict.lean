import JobMonitor.Proofs.Job.Admission
import JobMonitor.Proofs.Job.FirstOccurrences

set_option autoImplicit false

/-! # The verdict on a submission

`Submission.Verdict` says what becomes of a submission without saying how that is found out: the first
rule in order that is broken is the reason for the rejection, and a submission that breaks none becomes an
entry. There is exactly one verdict on every submission, and it is the one that is passed
(`Submission.admit_verdict`). An entry names the process ids of the submission in the order in which they
occur first, so that submitting them again changes nothing. -/

namespace JobMonitor

/-! ## Process ids -/

/-- The number is the id of a process. -/
def IsPidNumber (raw : Int64) : Prop := 1 ≤ raw.toInt ∧ raw.toInt ≤ Int32.maxValue.toInt

instance (raw : Int64) : Decidable (IsPidNumber raw) := inferInstanceAs (Decidable (_ ∧ _))

theorem isNone_ofInt64?_iff {raw : Int64} : (Pid.ofInt64? raw).isNone = true ↔ ¬ IsPidNumber raw := by
  rw [Option.isNone_iff_eq_none, ← Option.not_isSome_iff_eq_none, Pid.isSome_ofInt64?]
  rfl

/-- The first number that is no process id. -/
theorem find?_isNone_eq_some_iff {raws : List Int64} {raw : Int64} :
    raws.find? (fun raw => (Pid.ofInt64? raw).isNone) = some raw ↔
      ¬ IsPidNumber raw ∧ ∃ front rest, raws = front ++ raw :: rest ∧ ∀ pid ∈ front, IsPidNumber pid := by
  simp only [List.find?_eq_some_iff_append, isNone_ofInt64?_iff, Bool.not_eq_true', ← Bool.not_eq_true,
    Decidable.not_not]

theorem find?_isNone_eq_none_iff {raws : List Int64} :
    raws.find? (fun raw => (Pid.ofInt64? raw).isNone) = none ↔ ∀ raw ∈ raws, IsPidNumber raw := by
  simp only [List.find?_eq_none, isNone_ofInt64?_iff, Decidable.not_not]

/-- The processes that some numbers stand for, each of them once. -/
def NamesOnce (pids : List Pid) (raws : List Int64) : Prop :=
  IsFirstOccurrences (pids.map Int32.toInt) (raws.map Int64.toInt)

theorem NamesOnce.unique {pids pids' : List Pid} {raws : List Int64} (h : NamesOnce pids raws)
    (h' : NamesOnce pids' raws) : pids = pids' :=
  List.map_injective_iff.2 (fun _ _ => Int32.toInt.inj) (IsFirstOccurrences.unique h h')

/-- All numbers of a list of process ids are taken over. -/
theorem map_toInt_filterMap {raws : List Int64} (h : ∀ raw ∈ raws, IsPidNumber raw) :
    (raws.filterMap Pid.ofInt64?).map Int32.toInt = raws.map Int64.toInt := by
  induction raws with
  | nil => rfl
  | cons raw rest ih =>
    obtain ⟨pid, hpid⟩ := Option.isSome_iff_exists.1
      (Pid.isSome_ofInt64?.2 (h raw List.mem_cons_self))
    rw [List.filterMap_cons_some hpid, List.map_cons, List.map_cons,
      ih fun other hother => h other (List.mem_cons_of_mem _ hother),
      (Pid.ofInt64?_eq_some_iff.1 hpid).2]

theorem namesOnce_pidsOf {raws : List Int64} (h : ∀ raw ∈ raws, IsPidNumber raw) :
    NamesOnce (pidsOf raws) raws := by
  rw [NamesOnce, ← map_toInt_filterMap h]
  exact (isFirstOccurrences_eraseDups _).map fun _ _ => Int32.toInt.inj

/-! ## Verdicts -/

/-- The job is registered already and the submission may not replace it. -/
def Submission.IsDuplicate (s : Submission) (isRegistered : Bool) (policy : DuplicatePolicy) : Prop :=
  isRegistered = true ∧ s.isUpdate = false ∧ policy = .reject

section

variable (s : Submission) (isRegistered : Bool) (policy : DuplicatePolicy) (now : Instant)

/-- What becomes of a submission: it is rejected for the first rule that it breaks, or admitted. -/
inductive Submission.Verdict : Except Rejection Admitted → Prop where
  | noProcesses (hpids : s.pids = []) : Verdict (.error .noProcesses)
  /-- The first number of the list that is no process id. -/
  | invalidProcessId {front rest : List Int64} {raw : Int64} (hpids : s.pids = front ++ raw :: rest)
      (hfront : ∀ pid ∈ front, IsPidNumber pid) (hraw : ¬ IsPidNumber raw) :
      Verdict (.error (.invalidProcessId raw))
  | invalidTimestamp {raw : Json} (hpids : s.pids ≠ []) (hrange : ∀ pid ∈ s.pids, IsPidNumber pid)
      (htime : s.createdAt = .invalid raw) : Verdict (.error (.invalidTimestamp raw))
  | duplicateJobId {createdAt : Instant} (hpids : s.pids ≠ [])
      (hrange : ∀ pid ∈ s.pids, IsPidNumber pid) (htime : s.createdAt = .valid createdAt)
      (hduplicate : s.IsDuplicate isRegistered policy) : Verdict (.error .duplicateJobId)
  | admitted {createdAt : Instant} {pids : List Pid} (hpids : s.pids ≠ [])
      (hrange : ∀ pid ∈ s.pids, IsPidNumber pid) (htime : s.createdAt = .valid createdAt)
      (hnew : ¬ s.IsDuplicate isRegistered policy) (honce : NamesOnce pids s.pids) :
      Verdict (.ok ⟨⟨s.jobId, pids, createdAt, now⟩, isRegistered⟩)

end

section

variable {s : Submission} {isRegistered : Bool} {policy : DuplicatePolicy} {now : Instant}

theorem Submission.Verdict.unique {result result' : Except Rejection Admitted}
    (h : s.Verdict isRegistered policy now result) (h' : s.Verdict isRegistered policy now result') :
    result = result' := by
  have hbad : ∀ {front rest : List Int64} {raw : Int64}, s.pids = front ++ raw :: rest →
      ¬ IsPidNumber raw → ¬ ∀ pid ∈ s.pids, IsPidNumber pid := fun hsplit hraw hrange =>
    hraw (hrange _ (hsplit ▸ List.mem_append_right _ List.mem_cons_self))
  have hnonempty : ∀ {front rest : List Int64} {raw : Int64}, s.pids = front ++ raw :: rest →
      s.pids ≠ [] := fun hsplit => hsplit ▸ List.append_ne_nil_of_right_ne_nil _ (List.cons_ne_nil _ _)
  cases h with
  | noProcesses hpids =>
    cases h' with
    | noProcesses => rfl
    | invalidProcessId hpids' => exact absurd hpids (hnonempty hpids')
    | invalidTimestamp hpids' | duplicateJobId hpids' | admitted hpids' => exact absurd hpids hpids'
  | invalidProcessId hpids hfront hraw =>
    cases h' with
    | noProcesses hpids' => exact absurd hpids' (hnonempty hpids)
    | invalidProcessId hpids' hfront' hraw' =>
      have hfind := find?_isNone_eq_some_iff.2 ⟨hraw, _, _, hpids, hfront⟩
      rw [find?_isNone_eq_some_iff.2 ⟨hraw', _, _, hpids', hfront'⟩] at hfind
      rw [Option.some.inj hfind]
    | invalidTimestamp _ hrange | duplicateJobId _ hrange | admitted _ hrange =>
      exact absurd hrange (hbad hpids hraw)
  | invalidTimestamp hpids hrange htime =>
    cases h' with
    | noProcesses hpids' => exact absurd hpids' hpids
    | invalidProcessId hpids' _ hraw => exact absurd hrange (hbad hpids' hraw)
    | invalidTimestamp _ _ htime' => rw [CreationTime.invalid.inj (htime.symm.trans htime')]
    | duplicateJobId _ _ htime' | admitted _ _ htime' => cases htime.symm.trans htime'
  | duplicateJobId hpids hrange htime hduplicate =>
    cases h' with
    | noProcesses hpids' => exact absurd hpids' hpids
    | invalidProcessId hpids' _ hraw => exact absurd hrange (hbad hpids' hraw)
    | invalidTimestamp _ _ htime' => cases htime.symm.trans htime'
    | duplicateJobId => rfl
    | admitted _ _ _ hnew => exact absurd hduplicate hnew
  | admitted hpids hrange htime hnew honce =>
    cases h' with
    | noProcesses hpids' => exact absurd hpids' hpids
    | invalidProcessId hpids' _ hraw => exact absurd hrange (hbad hpids' hraw)
    | invalidTimestamp _ _ htime' => cases htime.symm.trans htime'
    | duplicateJobId _ _ _ hduplicate => exact absurd hduplicate hnew
    | admitted _ _ htime' _ honce' =>
      rw [honce.unique honce', CreationTime.valid.inj (htime.symm.trans htime')]

theorem Submission.verdict_admit (s : Submission) (isRegistered : Bool) (policy : DuplicatePolicy)
    (now : Instant) : s.Verdict isRegistered policy now ( s.admit isRegistered policy now) := by
  have hgathered := admitPids_eq [] s.pids
  rw [List.eraseDups_nil, List.nil_append] at hgathered
  unfold Submission.admit
  by_cases hempty : s.pids.isEmpty
  · rw [if_pos hempty]
    exact .noProcesses (List.isEmpty_iff.1 hempty)
  · have hpids : s.pids ≠ [] := fun hnil => hempty (List.isEmpty_iff.2 hnil)
    rw [if_neg hempty, hgathered]
    cases hfind : s.pids.find? fun raw => (Pid.ofInt64? raw).isNone with
    | some raw =>
      obtain ⟨hraw, front, rest, hsplit, hfront⟩ := find?_isNone_eq_some_iff.1 hfind
      exact .invalidProcessId hsplit hfront hraw
    | none =>
      have hrange := find?_isNone_eq_none_iff.1 hfind
      cases htime : s.createdAt with
      | invalid raw => exact .invalidTimestamp hpids hrange htime
      | valid createdAt =>
        dsimp only
        split
        · next hduplicate =>
          exact .duplicateJobId hpids hrange htime
            ⟨hduplicate.1, Bool.not_eq_true _ ▸ hduplicate.2.1, hduplicate.2.2⟩
        · next hnew =>
          refine .admitted hpids hrange htime (fun hduplicate => hnew ?_) (namesOnce_pidsOf hrange)
          exact ⟨hduplicate.1, Bool.not_eq_true _ ▸ hduplicate.2.1, hduplicate.2.2⟩

theorem Submission.admit_eq_iff_verdict {result : Except Rejection Admitted} :
    s.admit isRegistered policy now = result ↔ s.Verdict isRegistered policy now result :=
  ⟨fun h => h ▸ s.verdict_admit isRegistered policy now,
    (s.verdict_admit isRegistered policy now).unique⟩

/-! ## Submitting again -/

theorem map_toInt_toInt64 (pids : List Pid) :
    (pids.map Int32.toInt64).map Int64.toInt = pids.map Int32.toInt := by
  rw [List.map_map]
  exact List.map_congr_left fun pid _ => Int32.toInt_toInt64 pid

/-- Submitting the process ids of an entry gives that entry again. -/
theorem Submission.Verdict.again {a : Admitted} (h : s.Verdict isRegistered policy now (.ok a)) :
    { s with pids := a.entry.pids.map Int32.toInt64 }.Verdict isRegistered policy now (.ok a) := by
  cases h with
  | @admitted createdAt pids hpids hrange htime hnew honce =>
    refine .admitted (fun hnil => ?_) (fun raw hraw => ?_) htime hnew ?_
    · -- The first number of the submission names a process.
      obtain ⟨raw, rest, hcons⟩ := List.exists_cons_of_ne_nil hpids
      have hnamed := (honce.mem_iff raw.toInt).2 (hcons ▸ List.mem_cons_self)
      have hnone : pids = [] := List.map_eq_nil_iff.1 hnil
      rw [hnone] at hnamed
      exact List.not_mem_nil hnamed
    · -- Every process is named by a number of the submission.
      obtain ⟨pid, hpid, rfl⟩ := List.mem_map.1 hraw
      obtain ⟨raw', hraw', heq⟩ :=
        List.mem_map.1 ((honce.mem_iff pid.toInt).1 (List.mem_map_of_mem hpid))
      rw [IsPidNumber, Int32.toInt_toInt64, ← heq]
      exact hrange raw' hraw'
    · rw [NamesOnce, map_toInt_toInt64]
      exact isFirstOccurrences_self honce.nodup

/-- **A submission gets the verdict of the first rule that it breaks**, and no other. If it is admitted,
    then submitting the process ids of its entry gives the same entry. -/
theorem Submission.admit_verdict (s : Submission) (isRegistered : Bool) (policy : DuplicatePolicy)
    (now : Instant) :
    (∀ result, s.admit isRegistered policy now = result ↔ s.Verdict isRegistered policy now result) ∧
    ∀ a, s.admit isRegistered policy now = .ok a →
      Submission.admit { s with pids := a.entry.pids.map Int32.toInt64 } isRegistered policy now = .ok a :=
  ⟨fun _ => admit_eq_iff_verdict,
    fun _ h => admit_eq_iff_verdict.2 (admit_eq_iff_verdict.1 h).again⟩

/-- A job that lists its processes 7 and 3 with a repetition. -/
theorem Submission.admit_verdict_repeated_process :
    let first : Submission := ⟨1, [7, 3, 7], .valid .epoch, false⟩
    let admitted : Admitted := ⟨⟨1, [7, 3], .epoch, .epoch⟩, false⟩
    first.admit false .reject .epoch = .ok admitted ∧
      Submission.admit { first with pids := [7, 3] } false .reject .epoch = .ok admitted :=
  ⟨by decide, (admit_verdict ⟨1, [7, 3, 7], .valid .epoch, false⟩ false .reject .epoch).2
    ⟨⟨1, [7, 3], .epoch, .epoch⟩, false⟩ (by decide)⟩

end

end JobMonitor
