import JobMonitor.Job.RecordReader
import JobMonitor.Proofs.Json.Members
import JobMonitor.Proofs.Json.Values
import JobMonitor.Proofs.Time.Wire

set_option autoImplicit false

/-! # Submission records are read back

The text of a record is decoded as the submission that the record makes, its creation time without
the fraction of a second. It is a single line that is not blank, whatever is in its fields. -/

namespace JobMonitor

/-! ## Creation times -/

/-- The creation time is the same after being sent, up to the fraction of a second: what is sent for
    it is a value that is read as it was written, and stands for no other creation time. -/
structure CreationTime.Travels (t : CreationTime) : Prop where
  exact : t.toJson.IsExact (Json.maxDepth - 1)
  arranged : t.toJson.arranged = t.toJson
  notNull : t.toJson ≠ .null
  readBack : CreationTime.ofJson t.toJson = t.sent

theorem CreationTime.travels_valid (t : Instant) : (CreationTime.valid t).Travels where
  exact := .string _
  arranged := rfl
  notNull := Json.noConfusion
  readBack := by rw [toJson, ofJson, readTimestamp_wire, sent]

theorem CreationTime.travels_unset : CreationTime.unset.Travels where
  exact := .integer _
  arranged := rfl
  notNull := Json.noConfusion
  readBack := rfl

/-- A text is submitted as a time or, if it names none, as it is. -/
theorem CreationTime.travels_text (text : String) : (CreationTime.ofJson (.string text)).Travels := by
  cases h : readTimestamp text with
  | some t =>
    rw [ofJson, h]
    exact CreationTime.travels_valid t
  | none =>
    have hinvalid : CreationTime.ofJson (.string text) = .invalid (.string text) := by
      rw [ofJson, h]
    rw [hinvalid]
    exact ⟨.string _, rfl, Json.noConfusion, hinvalid⟩

/-! ## Fields -/

theorem Json.toInt64_ofInt64 (n : Int64) : (Json.ofInt64 n).toInt64 = .ok n := by
  have hlow := n.le_toInt
  have hhigh := n.toInt_lt
  rw [ofInt64, toInt64, JsonNumber.int64, JsonNumber.integerIn,
    if_pos ⟨hlow, Int.le_sub_one_of_lt hhigh⟩]
  show Except.ok (Int64.ofInt n.toInt) = _
  rw [Int64.ofInt_toInt]

theorem Json.optionalField_some {α : Type} {convert : Json → Except Json.ReadError α} {v : Json}
    (h : v ≠ .null) : Json.optionalField convert (some v) = (convert v).map some := by
  cases v with
  | null => exact absurd rfl h
  | _ => rfl

theorem Json.toInt64s_array (ns : List Int64) :
    (Json.array (ns.map Json.ofInt64)).toInt64s = .ok ns := by
  rw [toInt64s]
  induction ns with
  | nil => rfl
  | cons n rest ih =>
    rw [List.map_cons, List.mapM_cons, Json.toInt64_ofInt64, ih]
    rfl

/-! ## The value of a record -/

/-- The record as it arrives after being sent. -/
def SubmissionRecord.sent (r : SubmissionRecord) : SubmissionRecord :=
  { r with createdAt := r.createdAt.map CreationTime.sent }

@[inherit_doc SubmissionRecord.sent]
def Submission.sent (s : Submission) : Submission := { s with createdAt := s.createdAt.sent }

theorem Json.isExact_int64s (ns : List Int64) (depth : Nat) :
    (Json.array (ns.map Json.ofInt64)).IsExact (depth + 1) := by
  refine .array fun v hv => ?_
  obtain ⟨n, -, rfl⟩ := List.mem_map.1 hv
  exact .integer _

theorem Json.arranged_int64s (ns : List Int64) :
    (Json.array (ns.map Json.ofInt64)).arranged = Json.array (ns.map Json.ofInt64) := by
  rw [arranged, Json.arrangedItems_eq_map, List.map_map]
  rfl

/-- The members of a record are values that are read as they were written. -/
theorem SubmissionRecord.members_readable {r : SubmissionRecord}
    (h : ∀ t ∈ r.createdAt, t.Travels) {m : String × Json} (hm : m ∈ r.members) :
    m.2.IsExact (Json.maxDepth - 1) ∧ m.2.arranged = m.2 := by
  rw [members] at hm
  simp only [List.mem_append, Option.mem_toList, Option.map_eq_some_iff] at hm
  rcases hm with ((⟨id, -, rfl⟩ | ⟨pids, -, rfl⟩) | ⟨t, ht, rfl⟩) | hm
  · exact ⟨.integer _, rfl⟩
  · exact ⟨Json.isExact_int64s pids _, Json.arranged_int64s pids⟩
  · exact ⟨(h t ht).exact, (h t ht).arranged⟩
  · split at hm
    · rw [List.mem_singleton.1 hm]
      exact ⟨.bool true, rfl⟩
    · exact absurd hm List.not_mem_nil

theorem SubmissionRecord.isExact_members {r : SubmissionRecord} (h : ∀ t ∈ r.createdAt, t.Travels) :
    (Json.object r.members).IsExact Json.maxDepth :=
  .object fun _ hm => (SubmissionRecord.members_readable h hm).1

/-- The text of a record is read as the object of its members in order. -/
theorem SubmissionRecord.read_bytes {r : SubmissionRecord} (h : ∀ t ∈ r.createdAt, t.Travels) :
    Json.read r.bytes = .ok (Json.ofMembers r.members) := by
  have hread := Json.readValue_bytes (SubmissionRecord.isExact_members h) Json.stopsNumber_nil
  have harranged : Json.arrangedMembers r.members = r.members := by
    have hsame : ∀ m ∈ r.members, (m.1, m.2.arranged) = m := fun m hm => by
      rw [(SubmissionRecord.members_readable h hm).2]
    rw [Json.arrangedMembers_eq_map, List.map_congr_left hsame, List.map_id']
  rw [List.append_nil, Json.arranged, harranged] at hread
  rw [Json.read, bytes, hread]
  rfl

/-! ## Decoding -/

/-- The fields are found under their keys. -/
theorem SubmissionRecord.lookup_members (r : SubmissionRecord) :
    r.members.reverse.lookup jobIdKey = r.jobId.map Json.ofInt64 ∧
      r.members.reverse.lookup pidsKey = r.pids.map (fun pids => .array (pids.map Json.ofInt64)) ∧
      r.members.reverse.lookup createdAtKey = r.createdAt.map CreationTime.toJson ∧
      r.members.reverse.lookup updateKey = if r.isUpdate then some (.bool true) else none := by
  obtain ⟨jobId, pids, createdAt, isUpdate⟩ := r
  cases jobId <;> cases pids <;> cases createdAt <;> cases isUpdate <;>
    exact ⟨rfl, rfl, rfl, rfl⟩

theorem SubmissionRecord.ofMembers_members {r : SubmissionRecord}
    (h : ∀ t ∈ r.createdAt, t.Travels) {members : List (String × Json)}
    (hmembers : ∀ key, Json.member? key members = r.members.reverse.lookup key) :
    SubmissionRecord.ofMembers members = .ok r.sent := by
  obtain ⟨hjobId, hpids, hcreatedAt, hupdate⟩ := r.lookup_members
  have htime : Json.optionalField (fun v => .ok (CreationTime.ofJson v))
      (r.createdAt.map CreationTime.toJson) = .ok (r.createdAt.map CreationTime.sent) := by
    cases ht : r.createdAt with
    | none => rfl
    | some t =>
      rw [Option.map_some, Json.optionalField_some (h t ht).notNull, (h t ht).readBack]
      rfl
  have hid : Json.optionalField Json.toInt64 (r.jobId.map Json.ofInt64) = .ok r.jobId := by
    cases r.jobId with
    | none => rfl
    | some id =>
      rw [Option.map_some, Json.optionalField_some Json.noConfusion, Json.toInt64_ofInt64]
      rfl
  have hlist : Json.optionalField Json.toInt64s
      (r.pids.map fun pids => .array (pids.map Json.ofInt64)) = .ok r.pids := by
    cases r.pids with
    | none => rfl
    | some pids =>
      rw [Option.map_some, Json.optionalField_some Json.noConfusion, Json.toInt64s_array]
      rfl
  rw [ofMembers, hmembers, hmembers, hmembers, hmembers, hjobId, hpids, hcreatedAt, hupdate, htime]
  simp only [hid, hlist]
  cases hmark : r.isUpdate <;> simp [Json.toBool, sent, hmark]

/-- **The text of a record is decoded as the submission that the record makes** after it has been
    sent, or as what keeps it from making one. -/
theorem Submission.decode_bytes {r : SubmissionRecord} (h : ∀ t ∈ r.createdAt, t.Travels) :
    Submission.decode r.bytes = r.sent.toSubmission := by
  have hmembers : ∀ key, Json.member? key
      (r.members.foldl (fun sorted m => Json.insertMember m.1 m.2 sorted) [])
      = r.members.reverse.lookup key := by
    intro key
    rw [Json.member?_foldl_insertMember, Json.member?, Option.or_none]
  rw [decode, SubmissionRecord.read_bytes h, Json.ofMembers]
  simp only [SubmissionRecord.ofMembers_members h hmembers]

/-- A submission is complete, so its text is decoded as the submission as it is after being sent. -/
theorem Submission.decode_toRecord {s : Submission} (h : s.createdAt.Travels) :
    Submission.decode s.toRecord.bytes = .ok s.sent := by
  refine (Submission.decode_bytes fun t ht => ?_).trans rfl
  rwa [← Option.some.inj ht]

/-! ## One line -/

/-- The text of a record is no blank line. -/
theorem SubmissionRecord.isBlank_bytes (r : SubmissionRecord) : r.bytes.isBlank = false := by
  rw [bytes, Json.bytes_object]
  rfl

theorem SubmissionRecord.isPrintable_bytes (r : SubmissionRecord) : r.bytes.IsPrintable :=
  Json.isPrintable_bytes _

theorem SubmissionRecord.newline_not_mem_bytes (r : SubmissionRecord) : newline ∉ r.bytes :=
  Json.newline_not_mem_bytes _

/-- No carriage return is taken from the end of the text. -/
theorem SubmissionRecord.getLast?_bytes (r : SubmissionRecord) :
    r.bytes.getLast? ≠ some carriageReturn :=
  fun hb => r.isPrintable_bytes _ (List.mem_of_getLast? hb) (by decide)

end JobMonitor
