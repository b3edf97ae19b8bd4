import JobMonitor.Job.CreationTime

set_option autoImplicit false

/-! # Submissions

A submission asks the monitor to watch a job: it names the job, its processes and the time at
which it was created, and says whether it may replace a job that is already there. What travels
over the channel is a submission record, in which every field may be left out. -/

namespace JobMonitor

/-- Jobs are told apart by a number. -/
abbrev JobId := Int64

/-- A submitted job. Its fields have the right types, but nothing else about them is certain. -/
structure Submission where
  jobId : JobId
  pids : List Int64
  createdAt : CreationTime
  /-- May replace a job that is already registered. -/
  isUpdate : Bool
deriving DecidableEq

/-- A submission as it travels, with any of its fields left out. -/
structure SubmissionRecord where
  jobId : Option JobId := none
  pids : Option (List Int64) := none
  createdAt : Option CreationTime := none
  isUpdate : Bool := false
deriving DecidableEq

/-! ## Field names -/

/-- The names of the fields in a record. -/
def SubmissionRecord.jobIdKey : String := "JobID"

@[inherit_doc SubmissionRecord.jobIdKey]
def SubmissionRecord.pidsKey : String := "JobPIDs"

@[inherit_doc SubmissionRecord.jobIdKey]
def SubmissionRecord.createdAtKey : String := "JobCreateTime"

@[inherit_doc SubmissionRecord.jobIdKey]
def SubmissionRecord.updateKey : String := "JobUpdate"

/-! ## Writing -/

/-- The record of a submission. -/
def Submission.toRecord (s : Submission) : SubmissionRecord :=
  ⟨some s.jobId, some s.pids, some s.createdAt, s.isUpdate⟩

/-- The members of a record. Fields that are left out and an update mark that is not set are not
    written. -/
def SubmissionRecord.members (r : SubmissionRecord) : List (String × Json) :=
  (r.jobId.map fun id => (jobIdKey, Json.ofInt64 id)).toList
    ++ (r.pids.map fun pids => (pidsKey, Json.array (pids.map Json.ofInt64))).toList
    ++ (r.createdAt.map fun t => (createdAtKey, t.toJson)).toList
    ++ (if r.isUpdate then [(updateKey, Json.bool true)] else [])

/-- The text of a record. -/
def SubmissionRecord.render (r : SubmissionRecord) : String := (Json.object r.members).render

/-- The bytes of a record. -/
def SubmissionRecord.bytes (r : SubmissionRecord) : Bytes := (Json.object r.members).bytes

end JobMonitor
