import JobMonitor.Export.Record
import JobMonitor.Job.EntryReader
import JobMonitor.Proofs.Json.Typed
import JobMonitor.Proofs.Time.Exchange

set_option autoImplicit false

/-! # Changes are read back

The text of a change is read as the change, whatever job id, processes and times its entry has. So
is the text of an export record: the time that stands in front is no member of a change, and is
skipped. -/

namespace JobMonitor

/-! ## Entries -/

theorem Instant.read_bytes (t : Instant) (s : Bytes) :
    Instant.read (t.toJson.bytes ++ s) = .ok (t, s) := by
  rw [Instant.read, toJson, Json.readText_bytes]
  simp only [readEntryTime_exchange]
  rfl

theorem Json.readPids_bytes (pids : List Pid) (s : Bytes) :
    Json.readListOf Json.readInt32 ((Json.array (pids.map Json.ofPid)).bytes ++ s)
      = .ok (pids, s) :=
  Json.readListOf_bytes (fun _ _ => Json.startsValue_bytes (@Json.IsExact.integer 0 _))
    (fun pid _ _ hs => Json.readInt32_bytes pid _ hs) s

/-- The fields are met one after the other, each of them once. -/
theorem Entry.readsTo_members (e : Entry) :
    Json.ReadsTo EntryFields.readMember {} (e.members.map Json.memberBytes)
      ⟨some e.jobId, some e.pids, some e.createdAt, some e.ingestedAt⟩ := by
  refine .cons ⟨some e.jobId, none, none, none⟩ (fun s hs => ?_)
    (.cons ⟨some e.jobId, some e.pids, none, none⟩ (fun s hs => ?_)
      (.cons ⟨some e.jobId, some e.pids, some e.createdAt, none⟩ (fun s hs => ?_)
        (.cons _ (fun s hs => ?_) .nil)))
  · rw [EntryFields.readMember, Json.readString_memberBytes]
    simp only [↓reduceIte, Json.readOnce, Json.readMemberValue_colon, Json.readInt64_bytes _ hs]
    rfl
  · rw [EntryFields.readMember, Json.readString_memberBytes]
    simp only [String.reduceEq, ↓reduceIte, Json.readOnce, Json.readMemberValue_colon,
      Json.readPids_bytes]
    rfl
  · rw [EntryFields.readMember, Json.readString_memberBytes]
    simp only [String.reduceEq, ↓reduceIte, Json.readOnce, Json.readMemberValue_colon,
      Instant.read_bytes]
    rfl
  · rw [EntryFields.readMember, Json.readString_memberBytes]
    simp only [String.reduceEq, ↓reduceIte, Json.readOnce, Json.readMemberValue_colon,
      Instant.read_bytes]
    rfl

/-- **The text of an entry is read as the entry**, and what follows it is left. -/
theorem Entry.readNested_bytes (e : Entry) (s : Bytes) :
    Entry.readNested (e.toJson.bytes ++ s) = .ok (e, s) := by
  rw [readNested, toJson, Json.readRecord_bytes, readObject, e.readsTo_members.readObject]
  rfl

theorem Entry.read_bytes (e : Entry) : Entry.read e.toJson.bytes = .ok e := by
  have hread := e.readNested_bytes []
  rw [List.append_nil] at hread
  rw [read, Json.readWhole, hread]
  rfl

theorem Entry.isExact_toJson (e : Entry) (depth : Nat) : e.toJson.IsExact (depth + 2) := by
  refine .object fun m hm => ?_
  simp only [members, List.mem_cons, List.not_mem_nil, or_false] at hm
  rcases hm with rfl | rfl | rfl | rfl
  · exact .integer _
  · refine .array fun v hv => ?_
    obtain ⟨pid, -, rfl⟩ := List.mem_map.1 hv
    exact .integer _
  · exact .string _
  · exact .string _

/-! ## Changes -/

theorem ChangeKind.readNested_bytes (k : ChangeKind) (s : Bytes) :
    ChangeKind.readNested ((Json.string k.name).bytes ++ s) = .ok (k, s) := by
  rw [Json.bytes_string_append, readNested, Json.readVariant, Json.skipBlank_cons (by decide)]
  show ((Json.readString _).mapError _ >>= _) = _
  rw [Json.readString_quoted]
  cases k <;> rfl

/-- The key of a member of a change is read up to the colon behind it. -/
theorem Change.readKey_memberBytes (m : String × Json) (s : Bytes) :
    (Json.readString (Json.memberBytes m ++ s)).mapError Json.ReadError.text
      = .ok (m.1, ':'.toUInt8 :: (m.2.bytes ++ s)) := by
  rw [Json.readString_memberBytes]
  rfl

/-- The kind is met first, so the entry is read when it is met. -/
theorem Change.readsTo_members (c : Change) :
    Json.ReadsTo ChangeFields.readMember .nothing (c.members.map Json.memberBytes) (.both c) := by
  refine .cons (.kind c.kind) (fun s hs => ?_) (.cons _ (fun s hs => ?_) .nil)
  · rw [ChangeFields.readMember, Change.readKey_memberBytes]
    simp only [bind, Except.bind, ↓reduceIte, Json.readMemberValue_colon,
      ChangeKind.readNested_bytes]
    rfl
  · rw [ChangeFields.readMember, Change.readKey_memberBytes]
    simp only [bind, Except.bind, String.reduceEq, ↓reduceIte, Json.readMemberValue_colon,
      Entry.readNested_bytes]
    rfl

theorem Change.read_object {c : Change} {members : List (String × Json)}
    (h : Json.readObject Json.ReadError.text ChangeFields.readMember .nothing
      (Json.joined ((members.map Json.memberBytes).map ('"'.toUInt8 :: ·)) ++ ['}'.toUInt8])
        = .ok (.both c, [])) :
    Change.read (Json.object members).bytes = .ok c := by
  have hrecord := Json.readRecord_bytes Change.wanted Change.readObject Change.readListed members []
  rw [List.append_nil] at hrecord
  rw [read, Json.readWhole, hrecord, readObject, h]
  rfl

/-- **The text of a change is read as the change.** -/
theorem Change.read_bytes (c : Change) : Change.read c.toJson.bytes = .ok c :=
  Change.read_object (c.readsTo_members.readObject [])

/-! ## Export records -/

/-- **The text of a record is read as the change that it records.** -/
theorem ExportRecord.read_bytes (r : ExportRecord) : Change.read r.toJson.bytes = .ok r.change := by
  have hread : Json.ReadsTo ChangeFields.readMember .nothing
      (((timeKey, r.exportedAt.toJson) :: r.change.members).map Json.memberBytes) (.both r.change) := by
    refine .cons .nothing (fun s hs => ?_) r.change.readsTo_members
    rw [ChangeFields.readMember, Change.readKey_memberBytes]
    simp only [bind, Except.bind, timeKey, String.reduceEq, ↓reduceIte, Instant.toJson,
      Json.skipMemberValue_string]
    rfl
  exact Change.read_object (hread.readObject [])

/-- A record takes one line. -/
theorem ExportRecord.newline_not_mem_bytes (r : ExportRecord) : newline ∉ r.toJson.bytes :=
  Json.newline_not_mem_bytes _

end JobMonitor
