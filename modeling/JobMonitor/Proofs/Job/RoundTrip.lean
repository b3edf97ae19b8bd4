import JobMonitor.Proofs.Channel.Messages
import JobMonitor.Proofs.Job.Record
import JobMonitor.Proofs.Json.Order

set_option autoImplicit false

/-! # Records on their way

What the receiver of a record makes of its text (`record_round_trip`). Any of the fields may be left
out, and in the place of the creation time there may be a value that names none, as long as it is
neither changed on the way nor taken for a time or a missing field (`Json.IsTimeless`). -/

namespace JobMonitor

/-! ## Values that name no time -/

/-- A value that stands for no creation time and arrives inside a record as it was sent. Its numbers
    are integers, it is nested one level less deeply than a whole text may be, at most 126 levels, and
    its objects are in order, as those of every value that has been read are. -/
structure Json.IsTimeless (raw : Json) : Prop where
  exact : raw.IsExact (Json.maxDepth - 1)
  inOrder : raw.InOrder
  notNull : raw ≠ .null
  namesNoTime : ∀ text, raw = .string text → readTimestamp text = none

theorem CreationTime.ofJson_eq_invalid_iff {raw : Json} :
    CreationTime.ofJson raw = .invalid raw ↔ ∀ text, raw = .string text → readTimestamp text = none := by
  cases raw with
  | string text =>
    constructor
    · rintro h _ ⟨⟩
      rw [ofJson] at h
      cases htime : readTimestamp text with
      | none => rfl
      | some t =>
        rw [htime] at h
        cases h
    · intro h
      rw [ofJson, h text rfl]
  | _ => exact iff_of_true rfl fun _ h => Json.noConfusion h

theorem CreationTime.travels_invalid_iff {raw : Json} :
    (CreationTime.invalid raw).Travels ↔ raw.IsTimeless := by
  constructor
  · rintro ⟨hexact, harranged, hnotNull, hreadBack⟩
    exact ⟨hexact, Json.arranged_eq_iff.1 harranged, hnotNull,
      CreationTime.ofJson_eq_invalid_iff.1 hreadBack⟩
  · rintro ⟨hexact, hinOrder, hnotNull, hnoTime⟩
    exact ⟨hexact, Json.arranged_eq_iff.2 hinOrder, hnotNull,
      CreationTime.ofJson_eq_invalid_iff.2 hnoTime⟩

/-! ## Records -/

/-- **A record is read back.** The receiver is told which field is missing, the first in order, and for
    which job if that is known; otherwise the submission arrives as it was, its creation time without
    the fraction of a second. The text is a line of its own that holds no control character, and it is
    the one message that is read from it and its delimiter. -/
theorem record_round_trip {r : SubmissionRecord}
    (h : ∀ raw, r.createdAt = some (.invalid raw) → raw.IsTimeless) :
    (Submission.decode r.bytes =
        match r.jobId, r.pids, r.createdAt with
        | none, _, _ => .error (.missing SubmissionRecord.jobIdKey none)
        | some id, none, _ => .error (.missing SubmissionRecord.pidsKey (some id))
        | some id, some _, none => .error (.missing SubmissionRecord.createdAtKey (some id))
        | some id, some pids, some t => .ok ⟨id, pids, t.sent, r.isUpdate⟩) ∧
      ((∀ b ∈ r.bytes, ¬ b < 0x20) ∧ r.bytes.isBlank = false ∧ newline ∉ r.bytes ∧
        r.bytes.getLast? ≠ some carriageReturn) ∧
      ∀ limit, r.bytes.length ≤ limit →
        (Framer.feed { limit } (r.bytes ++ [newline])).drain.1 = [.message r.bytes] := by
  have htravels : ∀ t ∈ r.createdAt, t.Travels := by
    intro t ht
    cases t with
    | valid t => exact CreationTime.travels_valid t
    | invalid raw => exact CreationTime.travels_invalid_iff.2 (h raw ht)
  have hprintable := r.isPrintable_bytes
  have hsingle := r.newline_not_mem_bytes
  have hlast := r.getLast?_bytes
  refine ⟨?_, ⟨hprintable, r.isBlank_bytes, hsingle, hlast⟩, fun limit hshort => ?_⟩
  · rw [Submission.decode_bytes htravels]
    obtain ⟨_ | id, _ | pids, _ | t, isUpdate⟩ := r <;> rfl
  · have hsendable : IsSendable limit r.bytes := ⟨hsingle, r.isBlank_bytes, hlast, hshort⟩
    have hwritten := (Framer.awaits_nil limit).write hsendable
    have hread : (Framer.feed { limit } (r.bytes ++ [newline])).Awaits limit [] [r.bytes] :=
      Framer.Awaits.feed (by rwa [List.append_nil])
    exact hread.drain.1

/-- An object in the place of a creation time, with a text in it that has to be escaped. -/
def Json.oddTime : Json :=
  .object [("at", .array [.null, .string "noon\r\n"]), ("by", .ofInt64 (-1))]

theorem record_round_trip_odd_time :
    Json.oddTime.IsTimeless ∧
      Submission.decode (SubmissionRecord.mk (some 0) (some [-7]) (some (.invalid .oddTime)) true).bytes
        = .ok ⟨0, [-7], .invalid .oddTime, true⟩ := by
  have hexact : Json.oddTime.IsExact (Json.maxDepth - 1) := by
    refine .object (List.forall_mem_cons.2 ⟨.array ?_, List.forall_mem_singleton.2 (.integer _)⟩)
    exact List.forall_mem_cons.2 ⟨.null, List.forall_mem_singleton.2 (.string _)⟩
  have htimeless : Json.oddTime.IsTimeless :=
    ⟨hexact, by decide +kernel, Json.noConfusion, fun _ h => Json.noConfusion h⟩
  refine ⟨htimeless, (record_round_trip fun raw hraw => ?_).1⟩
  obtain rfl := CreationTime.invalid.inj (Option.some.inj hraw)
  exact htimeless

end JobMonitor
