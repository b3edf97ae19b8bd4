import JobMonitor.Proofs.Channel.Reading

set_option autoImplicit false

/-! # How much a dropped line held

A frame that notes dropped bytes gives their number. For a complete line that number should be the
length of the line without its delimiter, `\n` or `\r\n`. It is when the line is judged as a whole.
But once a framer has stopped keeping a line it counts what it reads, and the carriage return at the
end is counted with the rest. So a line notes one byte more if it is too long, ends in a carriage
return and is cut where it was too long already (`discarded_lengths`). What is dropped at the end of
the stream has no delimiter and is always counted in full. -/

namespace JobMonitor

/-! ## The number that a frame notes -/

/-- The frame that a complete line makes in a stream that is cut. -/
def CutStream.frame? (limit : Nat) (line : CutStream) : Option Frame :=
  lineFrame? limit (line.isCutPast limit []) line.bytes

/-- However the stream is cut, a complete line that is dropped notes the length of its content. -/
def NotesContentLengths (limit : Nat) (stream : Bytes) : Prop :=
  ∀ pieces : List Bytes, pieces.flatten = stream → ∀ line ∈ (cutLines pieces).dropLast,
    ∀ length reason, line.frame? limit = some (.discarded length reason) →
      length = (stripReturn line.bytes).length

/-- A dropped line counts its carriage return if the framer had stopped keeping it. -/
theorem eq_of_lineFrame?_discarded {limit length : Nat} {isDropped : Bool} {line : Bytes}
    {reason : DiscardReason} (h : lineFrame? limit isDropped line = some (.discarded length reason)) :
    reason = .oversized ∧
      length = if isDropped then line.length else (stripReturn line).length := by
  cases isDropped with
  | true =>
    obtain ⟨rfl, rfl⟩ : line.length = length ∧ DiscardReason.oversized = reason := by
      simpa [lineFrame?] using h
    exact ⟨rfl, rfl⟩
  | false =>
    simp only [lineFrame?, Bool.false_eq_true, if_false] at h
    split at h
    · exact absurd h (by simp)
    · split at h
      · obtain ⟨rfl, rfl⟩ :
            (stripReturn line).length = length ∧ DiscardReason.oversized = reason := by
          simpa using h
        exact ⟨rfl, rfl⟩
      · exact absurd h (by simp)

/-- What is dropped at the end of the stream is counted in full. -/
theorem eq_of_endFrame?_discarded {limit length : Nat} {isDropped : Bool} {line : Bytes}
    {reason : DiscardReason} (h : endFrame? limit isDropped line = some (.discarded length reason)) :
    length = line.length := by
  unfold endFrame? at h
  split at h
  · exact (Frame.discarded.inj (Option.some.inj h)).1.symm
  · split at h
    · exact absurd h (by simp)
    · exact (Frame.discarded.inj (Option.some.inj h)).1.symm

/-- A line ends in a carriage return if its content is not the whole of it. -/
theorem stripReturn_length_lt_iff (line : Bytes) :
    (stripReturn line).length < line.length ↔ line.getLast? = some carriageReturn := by
  rw [stripReturn_length]
  split
  · next hlast =>
    have : line ≠ [] := by
      rintro rfl
      exact absurd hlast (by simp)
    have := List.length_pos_of_ne_nil this
    exact ⟨fun _ => hlast, fun _ => by omega⟩
  · next hlast => exact ⟨fun h => absurd h (Nat.lt_irrefl _), fun h => absurd h hlast⟩

/-! ## A cut in front of the delimiter -/

theorem CutStream.isCutPast_append (limit : Nat) (more : Bytes) (begun : Bytes) (rest : CutStream) :
    CutStream.isCutPast limit begun (more.map some ++ rest)
      = CutStream.isCutPast limit (begun ++ more) rest := by
  induction more generalizing begun with
  | nil => simp
  | cons b more ih =>
    rw [List.map_cons, List.cons_append, CutStream.isCutPast, ih, List.append_assoc,
      List.singleton_append]

/-- A line with a mark at its end. -/
theorem CutStream.bytes_cut_at_end (line : Bytes) :
    CutStream.bytes (line.map some ++ [none]) = line := by
  simpa [cutStream] using cutStream_bytes [line]

/-- A stream can be cut between a complete line and its delimiter, and nowhere else in the line. -/
theorem exists_cut_of_mem_completeLines {stream line : Bytes} (h : line ∈ completeLines stream) :
    ∃ pieces : List Bytes, pieces.flatten = stream ∧
      line.map some ++ [none] ∈ (cutLines pieces).dropLast := by
  obtain ⟨hline, front, back, rfl, hfront⟩ := exists_of_mem_completeLines h
  refine ⟨[front ++ line, newline :: back], by simp, ?_⟩
  have hmem : some newline ∉ (line.map some ++ [none] : CutStream) := by simp [hline]
  have hcut : cutStream [front ++ line, newline :: back]
      = front.map some
        ++ (line.map some ++ [none] ++ some newline :: (back.map some ++ [none])) := by
    simp [cutStream]
  have hlast := List.splitOn_ne_nil (some newline) (back.map some ++ [none])
  rw [cutLines, hcut]
  rcases hfront with rfl | ⟨before, rfl⟩
  · rw [List.map_nil, List.nil_append, List.splitOn_append_cons_self_of_not_mem hmem,
      List.dropLast_cons_of_ne_nil hlast]
    exact List.mem_cons_self
  · rw [List.map_append, List.map_singleton, List.append_assoc, List.singleton_append,
      List.splitOn_append_cons_self, List.splitOn_append_cons_self_of_not_mem hmem,
      List.dropLast_append_of_ne_nil (List.cons_ne_nil _ _), List.dropLast_cons_of_ne_nil hlast]
    exact List.mem_append_right _ List.mem_cons_self

/-- Cut there, a line that is too long counts all of its bytes. -/
theorem frame?_of_cut_at_end {limit : Nat} {line : Bytes} (h : isOverlong limit line = true) :
    CutStream.frame? limit (line.map some ++ [none])
      = some (.discarded line.length .oversized) := by
  have hcut : CutStream.isCutPast limit [] (line.map some ++ [none]) = true := by
    rw [CutStream.isCutPast_append, CutStream.isCutPast, List.nil_append, h, Bool.true_or]
  rw [CutStream.frame?, hcut, CutStream.bytes_cut_at_end, lineFrame?]
  rfl

/-! ## The law -/

/-- A line notes the length of its content, however it is cut, unless it is too long and ends in a
    carriage return. -/
theorem notesContentLengths_iff (limit : Nat) (stream : Bytes) :
    NotesContentLengths limit stream ↔
      ∀ line ∈ completeLines stream, isOverlong limit line = true →
        line.getLast? ≠ some carriageReturn := by
  constructor
  · intro h line hline hlong hreturn
    obtain ⟨pieces, hpieces, hcut⟩ := exists_cut_of_mem_completeLines hline
    have hlength := h pieces hpieces _ hcut _ _ (frame?_of_cut_at_end hlong)
    rw [CutStream.bytes_cut_at_end] at hlength
    have := (stripReturn_length_lt_iff line).2 hreturn
    omega
  · rintro h pieces rfl line hline length reason hframe
    have hlength := (eq_of_lineFrame?_discarded hframe).2
    cases hcut : line.isCutPast limit [] with
    | false => simpa [hcut] using hlength
    | true =>
      have hmem : line.bytes ∈ completeLines pieces.flatten := by
        rw [completeLines_flatten]
        exact List.mem_map_of_mem hline
      have hlong : isOverlong limit line.bytes = true := by
        simpa using CutStream.isOverlong_of_isCutPast hcut
      rw [hcut, if_pos rfl] at hlength
      rw [hlength, stripReturn_length, if_neg (h _ hmem hlong)]

/-- **What is dropped is counted, with the carriage return only where the framer had given up.** The
    frames of a stream are those of its complete lines and of what is left behind them. A complete
    line that is dropped notes its whole length if it was cut where it was too long already, else the
    length of its content; what is left notes its length. So all cuts note the length of the content
    exactly if no line that is too long ends in a carriage return. -/
theorem discarded_lengths (limit : Nat) (stream : Bytes) :
    (∀ pieces : List Bytes, pieces.flatten = stream →
      streamFrames limit pieces
          = (cutLines pieces).dropLast.filterMap (CutStream.frame? limit)
            ++ (endFrame? limit false (unfinishedLine stream)).toList ∧
        (cutLines pieces).dropLast.map CutStream.bytes = completeLines stream ∧
        ∀ line ∈ (cutLines pieces).dropLast, ∀ length reason,
          line.frame? limit = some (.discarded length reason) →
            reason = .oversized ∧
              length = if line.isCutPast limit [] then line.bytes.length
                else (stripReturn line.bytes).length) ∧
    (∀ length reason,
      endFrame? limit false (unfinishedLine stream) = some (.discarded length reason) →
        length = (unfinishedLine stream).length) ∧
    (NotesContentLengths limit stream ↔
      ∀ line ∈ completeLines stream, isOverlong limit line = true →
        line.getLast? ≠ some carriageReturn) := by
  refine ⟨?_, fun length reason => eq_of_endFrame?_discarded, notesContentLengths_iff limit stream⟩
  rintro pieces rfl
  refine ⟨?_, (completeLines_flatten pieces).symm, fun line _ length reason =>
    eq_of_lineFrame?_discarded⟩
  rw [streamFrames_eq_cutLineFrames, cutLineFrames, unfinishedLine_flatten]
  rfl

/-- Five bytes, a carriage return and a limit of four: cut in front of the newline the line notes six
    bytes. -/
theorem long_returned_line_cut :
    ¬ ∀ limit stream, NotesContentLengths limit stream := by
  intro h
  have hlength := h 4 (.ofText "abcde\r\n") [.ofText "abcde\r", .ofText "\n"] (by decide)
    ((Bytes.ofText "abcde\r").map some ++ [none]) (by decide) 6 .oversized (by decide)
  revert hlength
  decide

end JobMonitor
