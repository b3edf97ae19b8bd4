import JobMonitor.Proofs.Job.Entry

set_option autoImplicit false

/-! # Changes in either order

The text of a change has its kind before its entry. A text in which the entry comes first is read as the
same change: the entry is only put aside when it is met, together with all that follows it, and read when
the kind is known. -/

namespace JobMonitor

/-! ## The entry first -/

/-- An entry that was put aside is read as the entry, whatever else was put aside with it. -/
theorem Entry.readKept_bytes (e : Entry) (s : Bytes) :
    Entry.readKept (e.toJson.bytes ++ s) = .ok e := by
  have hread := e.readNested_bytes s
  rw [toJson, Json.bytes_object, List.cons_append] at hread ⊢
  rw [readKept, Json.skipBlank_cons (by decide)]
  show (Entry.readNested _).map _ = _
  rw [hread]
  rfl

/-- An entry that is put aside is a value like any other. -/
theorem Entry.readAny_bytes (e : Entry) {s : Bytes} (hs : Json.StopsNumber s) :
    Json.readAny (Json.maxDepth - 1) (e.toJson.bytes ++ s) = .ok (e.toJson.arranged, s) := by
  have hexact : e.toJson.IsExact (Json.maxDepth - 1) := e.isExact_toJson (Json.maxDepth - 3)
  rw [Json.readAny, Json.readValue_bytes hexact hs]
  rfl

/-- The entry is met first, and put aside with the text behind it. -/
theorem ChangeFields.readMember_entry (e : Entry) {s : Bytes} (hs : Json.StopsNumber s) :
    ChangeFields.nothing.readMember (Json.memberBytes ("job", e.toJson) ++ s)
      = .ok (.kept (e.toJson.bytes ++ s), s) := by
  have hcolon : (Json.expectColon (':'.toUInt8 :: (e.toJson.bytes ++ s))).mapError Json.ReadError.text
      = .ok (e.toJson.bytes ++ s) := rfl
  rw [ChangeFields.readMember, Change.readKey_memberBytes]
  simp only [bind, Except.bind, String.reduceEq, ↓reduceIte, hcolon, e.readAny_bytes hs]
  rfl

/-- The kind is met after the entry, which is read then. -/
theorem ChangeFields.readMember_kind (c : Change) (kept s : Bytes) :
    (ChangeFields.kept (c.entry.toJson.bytes ++ kept)).readMember
        (Json.memberBytes ("event", .string c.kind.name) ++ s) = .ok (.both c, s) := by
  rw [ChangeFields.readMember, Change.readKey_memberBytes]
  simp only [bind, Except.bind, ↓reduceIte, Json.readMemberValue_colon, ChangeKind.readNested_bytes,
    Entry.readKept_bytes]
  rfl

theorem Change.read_reversed (c : Change) : Change.read (Json.object c.members.reverse).bytes = .ok c :=
  Change.read_object (Json.readObject_cons
    (ChangeFields.readMember_entry c.entry (Json.stopsNumber_members _ _))
    (.cons _ (fun s _ => ChangeFields.readMember_kind c _ s) .nil))

/-! ## Any change -/

/-- **Entries and changes come back**, whatever job, processes and times they have: the text of an entry
    is read as the entry, and that of a change as the change, whichever of its members comes first. So a
    change that was read from some other text is the same when it has been written and read again. -/
theorem change_round_trip :
    (∀ e : Entry, Entry.read e.toJson.bytes = .ok e) ∧
      (∀ c : Change, Change.read c.toJson.bytes = .ok c ∧
        Change.read (Json.object c.members.reverse).bytes = .ok c) ∧
      ∀ text c, Change.read text = .ok c → Change.read c.toJson.bytes = .ok c :=
  ⟨Entry.read_bytes, fun c => ⟨c.read_bytes, c.read_reversed⟩, fun _ c _ => c.read_bytes⟩

/-- A change that is written as a list, with a leap second in another zone and a year of five digits. -/
theorem change_round_trip_listed :
    let text := Bytes.ofText
      "[ \"added\", [7, [-1], \"2017-01-01 00:59:60.25 +01:00\", \"+12025-08-27T14:33:00Z\"] ]"
    ∃ c, Change.read text = .ok c ∧ Change.read c.toJson.bytes = .ok c ∧
      c.entry.createdAt.isLeap = true ∧ c.toJson.bytes ≠ text := by
  intro text
  have hknown : ((Change.read text).toOption.map fun c =>
      (c.entry.createdAt.isLeap, c.toJson.bytes == text)) = some (true, false) := by decide +kernel
  cases hread : Change.read text with
  | error e =>
    rw [hread] at hknown
    cases hknown
  | ok c =>
    rw [hread] at hknown
    obtain ⟨hleap, hother⟩ := Prod.mk.inj (Option.some.inj hknown)
    exact ⟨c, rfl, change_round_trip.2.2 text c hread, hleap, beq_eq_false_iff_ne.1 hother⟩

end JobMonitor
