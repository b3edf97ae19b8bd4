import JobMonitor.Job.RecordReader
import JobMonitor.Proofs.Json.Grammar
import JobMonitor.Proofs.Json.Settled
import Mathlib.Data.List.TakeWhile

set_option autoImplicit false

/-! # Torn and glued messages

A submission is an object, and an object has an end. A message that was cut off in front of this end, or
that goes on behind it with something else than blanks, is not decoded (`Submission.decode_whole`), so no
part of a message and no two messages in one are taken for a submission. -/

namespace JobMonitor

/-! ## What a whole text holds -/

theorem Json.skipBlank_eq_nil_iff {s : Bytes} :
    Json.skipBlank s = [] ↔ ∀ b ∈ s, Json.isBlank b = true :=
  List.dropWhile_eq_nil_iff

/-- Behind the value of a text there are only blanks. -/
theorem Json.of_read {s : Bytes} {v : Json} (h : Json.read s = .ok v) :
    ∃ left, Json.readValue Json.maxDepth s = .ok (v, left) ∧ ∀ b ∈ left, Json.isBlank b = true := by
  rw [read] at h
  split at h
  · cases h
  · next value left hvalue =>
    rw [expectEnd] at h
    split at h
    · next hend =>
      obtain rfl := Except.ok.inj h
      exact ⟨left, hvalue, Json.skipBlank_eq_nil_iff.1 (List.isEmpty_iff.1 hend)⟩
    · cases h

theorem Json.read_of_readValue {s left : Bytes} {v : Json}
    (h : Json.readValue Json.maxDepth s = .ok (v, left)) :
    Json.read s = if left.all Json.isBlank then .ok v else .error .trailingCharacters := by
  have hend : (Json.skipBlank left).isEmpty = true ↔ left.all Json.isBlank = true := by
    rw [List.isEmpty_iff, Json.skipBlank_eq_nil_iff, List.all_eq_true]
  rw [read, h]
  dsimp only
  by_cases hblank : left.all Json.isBlank = true
  · rw [expectEnd, if_pos hblank, if_pos (hend.2 hblank)]
    rfl
  · rw [expectEnd, if_neg hblank, if_neg (mt hend.1 hblank)]
    rfl

/-! ## Objects -/

section

variable {depth : Nat} {s left : Bytes}

/-- An object begins with a brace. -/
theorem Json.lead_of_readValue_object {members : List (String × Json)}
    (h : Json.readValue depth s = .ok (.object members, left)) :
    ∃ b rest, Json.skipBlank s = b :: rest ∧ Json.lead b = .brace := by
  rw [readValue.eq_def] at h
  split at h
  · cases h
  · next b rest hskip =>
    refine ⟨b, rest, hskip, ?_⟩
    split at h
    · obtain ⟨_, -, ⟨⟩⟩ := exists_of_map_eq_ok h
    · obtain ⟨_, -, ⟨⟩⟩ := exists_of_map_eq_ok h
    · obtain ⟨_, -, ⟨⟩⟩ := exists_of_map_eq_ok h
    · obtain ⟨_, -, ⟨⟩⟩ := exists_of_map_eq_ok h
    · obtain ⟨_, -, ⟨⟩⟩ := exists_of_map_eq_ok h
    · obtain ⟨_, -, ⟨⟩⟩ := exists_of_map_eq_ok h
    · cases depth with
      | zero => cases h
      | succ depth => obtain ⟨_, -, ⟨⟩⟩ := exists_of_map_eq_ok h
    · next hlead => exact hlead
    · cases h

/-- What begins with a brace is an object. -/
theorem Json.exists_object_of_lead {b : UInt8} {rest : Bytes} {v : Json}
    (hskip : Json.skipBlank s = b :: rest) (hlead : Json.lead b = .brace)
    (h : Json.readValue depth s = .ok (v, left)) : ∃ members, v = .object members := by
  rw [readValue.eq_def, hskip] at h
  simp only [hlead] at h
  cases depth with
  | zero => cases h
  | succ depth =>
    obtain ⟨⟨members, _⟩, -, heq⟩ := exists_of_map_eq_ok h
    exact ⟨members, (Prod.mk.inj heq).1.symm⟩

end

/-- A text that is cut off inside an object cannot be read. -/
theorem Json.exists_read_error_of_torn {torn rest : Bytes} {members : List (String × Json)}
    (h : Json.read (torn ++ rest) = .ok (.object members)) (hrest : ∃ b ∈ rest, Json.isBlank b = false) :
    ∃ e, Json.read torn = .error e := by
  cases htorn : Json.read torn with
  | error e => exact ⟨e, rfl⟩
  | ok v =>
    -- What is read of the front is an object as well, and would be all that is read of the whole.
    obtain ⟨left, hwhole, hleft⟩ := Json.of_read h
    obtain ⟨left', hfront, -⟩ := Json.of_read htorn
    obtain ⟨b, behind, hskip, hlead⟩ := Json.lead_of_readValue_object hwhole
    have hbrace : ∃ behind', Json.skipBlank torn = b :: behind' := by
      cases hfirst : Json.skipBlank torn with
      | nil =>
        rw [readValue.eq_def, hfirst] at hfront
        cases hfront
      | cons c behind' =>
        rw [Json.skipBlank_append hfirst] at hskip
        exact ⟨behind', by rw [(List.cons.inj hskip).1]⟩
    obtain ⟨behind', hfirst⟩ := hbrace
    obtain ⟨members', rfl⟩ := Json.exists_object_of_lead hfirst hlead hfront
    rw [Json.readValue_append hfront (fun _ _ => Json.noConfusion) rest] at hwhole
    obtain ⟨c, hc, hsolid⟩ := hrest
    have hblank := hleft c ((Prod.mk.inj (Except.ok.inj hwhole)).2 ▸ List.mem_append_right left' hc)
    rw [hsolid] at hblank
    cases hblank

/-! ## Submissions -/

theorem Submission.exists_read_of_decode {payload : Bytes} {s : Submission}
    (h : Submission.decode payload = .ok s) : ∃ members, Json.read payload = .ok (.object members) := by
  rw [decode] at h
  split at h
  · cases h
  · next members hread => exact ⟨members, hread⟩
  · cases h

theorem Submission.decode_of_read_error {payload : Bytes} {e : Json.TextError}
    (h : Json.read payload = .error e) :
    Submission.decode payload = .error (.unreadable (.text e)) := by
  rw [decode, h]

/-- **Only whole messages are decoded.** If a message that does not end in a blank holds a submission,
    nothing that is cut off from its front does, and neither does the message with anything but blanks
    behind it. Blanks around it change nothing. -/
theorem Submission.decode_whole {payload : Bytes} {s : Submission}
    (h : Submission.decode payload = .ok s)
    (hend : ∀ b ∈ payload.getLast?, Json.isBlank b = false) :
    (∀ torn, torn <+: payload → torn ≠ payload →
      ∃ e, Submission.decode torn = .error (.unreadable (.text e))) ∧
    (∀ glued, (∃ b ∈ glued, Json.isBlank b = false) →
      Submission.decode (payload ++ glued) = .error (.unreadable (.text .trailingCharacters))) ∧
    ∀ before after : List Json.Blank,
      Submission.decode (Json.blankBytes before ++ payload ++ Json.blankBytes after)
        = Submission.decode payload := by
  obtain ⟨members, hread⟩ := Submission.exists_read_of_decode h
  obtain ⟨left, hvalue, hleft⟩ := Json.of_read hread
  have hmore := Json.readValue_append hvalue fun _ _ => Json.noConfusion
  refine ⟨?_, fun glued hglued => ?_, fun before after => ?_⟩
  · rintro torn ⟨rest, rfl⟩ hshorter
    have hrest : ∃ b ∈ rest, Json.isBlank b = false := by
      have hne : rest ≠ [] := by
        rintro rfl
        exact hshorter (List.append_nil torn).symm
      refine ⟨rest.getLast hne, List.getLast_mem hne, hend _ ?_⟩
      rw [List.getLast?_append_of_ne_nil _ hne, List.getLast?_eq_some_getLast hne]
      rfl
    obtain ⟨e, he⟩ := Json.exists_read_error_of_torn hread hrest
    exact ⟨e, Submission.decode_of_read_error he⟩
  · refine Submission.decode_of_read_error ?_
    rw [Json.read_of_readValue (hmore glued), if_neg]
    intro hblank
    obtain ⟨b, hb, hsolid⟩ := hglued
    rw [List.all_eq_true.1 hblank b (List.mem_append_right left hb)] at hsolid
    cases hsolid
  · have hblank : ∀ b ∈ left ++ Json.blankBytes after, Json.isBlank b = true := by
      intro b hb
      rcases List.mem_append.1 hb with hb | hb
      · exact hleft b hb
      · obtain ⟨blank, -, rfl⟩ := List.mem_map.1 hb
        exact blank.isBlank_byte
    have hvalue : Json.readValue Json.maxDepth
        (Json.blankBytes before ++ payload ++ Json.blankBytes after)
        = .ok (.object members, left ++ Json.blankBytes after) := by
      rw [List.append_assoc, Json.readValue_blankBytes, hmore]
    rw [decode, Json.read_of_readValue hvalue, if_pos (List.all_eq_true.2 hblank), decode,
      hread]

/-- A message that is cut off in the middle, one that is followed by itself, and one between blanks. -/
theorem Submission.decode_whole_message :
    let payload := Bytes.ofText "\x7b\"JobID\":2,\"JobPIDs\":[1],\"JobCreateTime\":-1\x7d"
    (Submission.decode payload = .ok ⟨2, [1], .unset, false⟩ ∧
      ∀ b ∈ payload.getLast?, Json.isBlank b = false) ∧
    (∃ e, Submission.decode (payload.take 20) = .error (.unreadable (.text e))) ∧
    Submission.decode (payload ++ payload) = .error (.unreadable (.text .trailingCharacters)) ∧
    Submission.decode (Json.blankBytes [.tab] ++ payload ++ Json.blankBytes [.carriageReturn, .space])
      = Submission.decode payload := by
  intro payload
  have hdecode : Submission.decode payload = .ok ⟨2, [1], .unset, false⟩ := rfl
  have hlast : payload.getLast? = some 0x7D := rfl
  have hend : ∀ b ∈ payload.getLast?, Json.isBlank b = false := by
    intro b hb
    rw [hlast] at hb
    rw [← Option.some.inj hb]
    rfl
  obtain ⟨htorn, hglued, hblank⟩ := Submission.decode_whole hdecode hend
  exact ⟨⟨hdecode, hend⟩, htorn _ (List.take_prefix 20 payload) (by decide),
    hglued payload ⟨0x7B, by decide⟩, hblank _ _⟩

end JobMonitor
