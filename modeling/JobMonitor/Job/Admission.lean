import JobMonitor.Job.Entry

set_option autoImplicit false

/-! # Admission rules

Which submissions become entries. The rules are tried in a fixed order and the first one that is
broken is the reason for the rejection: a job has processes, every process id is a positive
number of 32 bits, the creation time names an instant, and the job is new unless it may replace
an old one. -/

namespace JobMonitor

/-- What happens to a submission of a job that is registered and is not marked as an update. -/
inductive DuplicatePolicy where
  | reject
  | overwrite
deriving DecidableEq, Inhabited, Repr

/-- The name of a policy. -/
def DuplicatePolicy.name : DuplicatePolicy → String
  | .reject => "reject"
  | .overwrite => "overwrite"

/-- Why a submission is rejected. -/
inductive Rejection where
  | noProcesses
  | invalidProcessId (pid : Int64)
  | invalidTimestamp (raw : Json)
  | duplicateJobId
deriving DecidableEq

/-- The wording of a rejection. -/
def Rejection.message (jobId : JobId) (r : Rejection) : String :=
  let job := "job " ++ signedDecimal jobId.toInt
  match r with
  | .noProcesses => job ++ " lists no processes"
  | .invalidProcessId pid => job ++ " lists invalid process id " ++ signedDecimal pid.toInt
  | .invalidTimestamp raw => job ++ " has an invalid creation time " ++ raw.render
  | .duplicateJobId => job ++ " is already registered"

/-- An admitted submission. -/
structure Admitted where
  entry : Entry
  /-- The job is registered already and its entry will be replaced. -/
  replaces : Bool
deriving DecidableEq

/-! ## Process ids -/

/-- The process id of a number, if it is one. -/
def Pid.ofInt64? (raw : Int64) : Option Pid :=
  if 1 ≤ raw.toInt ∧ raw.toInt ≤ Int32.maxValue.toInt then some (Int32.ofInt raw.toInt) else none

/-- The process ids of a list in the order of their first occurrence, behind those that are known;
    or the first number that is none. -/
def admitPids : (known : List Pid) → List Int64 → Except Int64 (List Pid)
  | known, [] => .ok known
  | known, raw :: rest =>
    match Pid.ofInt64? raw with
    | none => .error raw
    | some pid => admitPids (if pid ∈ known then known else known ++ [pid]) rest

/-! ## The rules in order -/

/-- Judges a submission against the registration of its job and the clock. -/
def Submission.admit (s : Submission) (isRegistered : Bool) (policy : DuplicatePolicy)
    (now : Instant) : Except Rejection Admitted :=
  if s.pids.isEmpty then .error .noProcesses
  else
    match admitPids [] s.pids with
    | .error pid => .error (.invalidProcessId pid)
    | .ok pids =>
      match s.createdAt with
      | .invalid raw => .error (.invalidTimestamp raw)
      | .valid createdAt =>
        if isRegistered ∧ ¬ s.isUpdate ∧ policy = .reject then .error .duplicateJobId
        else .ok ⟨⟨s.jobId, pids, createdAt, now⟩, isRegistered⟩

end JobMonitor
