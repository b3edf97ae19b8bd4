import JobMonitor.Proofs.Channel.Reading

set_option autoImplicit false

/-! # What the cuts of a stream change

The messages of a stream are those of its lines that are neither blank nor too long, however the
stream is cut (`messages_streamFrames`). Frames that note dropped bytes are not as steady. A blank
line is skipped whatever its length when it is read at once, but the framer stops keeping it when
it is too long and forgets that it was blank. So cuts can be seen in streams with a blank line
that is too long, and in no others (`cuts_unseen_iff`). -/

namespace JobMonitor

/-! ## Messages -/

/-- The payload of a message. -/
def Frame.payload? : Frame → Option Bytes
  | .message payload => some payload
  | .discarded .. => none

/-- A line of this content is a message. -/
def isMessage (limit : Nat) (content : Bytes) : Bool :=
  !content.isBlank && content.length ≤ limit

theorem payload?_lineFrame? (limit : Nat) {isDropped : Bool} {line : Bytes}
    (h : isDropped = true → isOverlong limit line = true) :
    (lineFrame? limit isDropped line).bind Frame.payload?
      = if isMessage limit (stripReturn line) then some (stripReturn line) else none := by
  cases isDropped with
  | true =>
    have hlong : limit < (stripReturn line).length := of_decide_eq_true (h rfl)
    simp [lineFrame?, Frame.payload?, isMessage, Nat.not_le.2 hlong]
  | false =>
    by_cases hblank : (stripReturn line).isBlank
    · simp [lineFrame?, isMessage, hblank]
    · by_cases hlong : limit < (stripReturn line).length
      · simp [lineFrame?, isMessage, hblank, hlong, Frame.payload?, Nat.not_le.2 hlong]
      · simp [lineFrame?, isMessage, hblank, hlong, Frame.payload?, Nat.not_lt.1 hlong]

/-- What is left at the end of a stream is no message. -/
theorem payload?_endFrame? (limit : Nat) (isDropped : Bool) (line : Bytes) :
    (endFrame? limit isDropped line).toList.filterMap Frame.payload? = [] := by
  unfold endFrame?
  split
  · rfl
  · split <;> rfl

/-- **The messages of a stream are its lines that are neither blank nor too long**, in order and
    however the stream is cut. -/
theorem messages_streamFrames (limit : Nat) (pieces : List Bytes) :
    (streamFrames limit pieces).filterMap Frame.payload?
      = ((completeLines pieces.flatten).map stripReturn).filter (isMessage limit) := by
  have hline : (fun line : CutStream =>
      (lineFrame? limit (line.isCutPast limit []) line.bytes).bind Frame.payload?)
      = Option.guard (isMessage limit) ∘ stripReturn ∘ CutStream.bytes := by
    funext line
    rw [payload?_lineFrame? limit fun h => by simpa using CutStream.isOverlong_of_isCutPast h]
    simp [Option.guard]
  rw [streamFrames_eq_cutLineFrames, cutLineFrames, List.filterMap_append, payload?_endFrame?,
    List.append_nil, List.filterMap_filterMap, hline, completeLines_flatten,
    ← List.filterMap_eq_filter, List.filterMap_map, List.filterMap_map, Function.comp_assoc]

/-! ## Dropped bytes -/

/-- A frame without the number of bytes that were dropped. -/
def Frame.eraseLength : Frame → Frame
  | .message payload => .message payload
  | .discarded _ reason => .discarded 0 reason

/-- How many frames note dropped bytes. -/
def discardCount (frames : List Frame) : Nat := frames.countP (·.payload?.isNone)

theorem discardCount_map_eraseLength (frames : List Frame) :
    discardCount (frames.map Frame.eraseLength) = discardCount frames := by
  rw [discardCount, List.countP_map]
  congr 1
  funext frame
  cases frame <;> rfl

/-- What is seen in the frames of a stream is the same for all ways to cut it. -/
def IsCutIndependent {α : Type} (limit : Nat) (see : List Frame → α) (stream : Bytes) : Prop :=
  ∀ pieces pieces' : List Bytes, pieces.flatten = stream → pieces'.flatten = stream →
    see (streamFrames limit pieces) = see (streamFrames limit pieces')

/-- A line that is not both blank and too long makes the same frame, cut or not. -/
theorem map_eraseLength_lineFrame? {limit : Nat} {isDropped : Bool} {line : Bytes}
    (hdropped : isDropped = true → isOverlong limit line = true)
    (hblank : (stripReturn line).isBlank = true → isOverlong limit line = false) :
    (lineFrame? limit isDropped line).map Frame.eraseLength
      = (lineFrame? limit false line).map Frame.eraseLength := by
  cases isDropped with
  | false => rfl
  | true =>
    have hlong := hdropped rfl
    have hfull : (stripReturn line).isBlank = false := by
      by_contra hb
      simp [hblank (by simpa using hb)] at hlong
    have : limit < (stripReturn line).length := of_decide_eq_true hlong
    simp [lineFrame?, hfull, this, Frame.eraseLength]

/-- If no blank line is too long, each line makes the same frame as if it had been read at once. -/
theorem map_eraseLength_streamFrames {limit : Nat} {pieces : List Bytes}
    (h : ∀ line ∈ completeLines pieces.flatten, (stripReturn line).isBlank = true →
      isOverlong limit line = false) :
    (streamFrames limit pieces).map Frame.eraseLength
      = ((completeLines pieces.flatten).filterMap (lineFrame? limit false)
        ++ (endFrame? limit false (unfinishedLine pieces.flatten)).toList).map
          Frame.eraseLength := by
  rw [completeLines_flatten] at h ⊢
  rw [streamFrames_eq_cutLineFrames, cutLineFrames, unfinishedLine_flatten, List.map_append,
    List.map_append, List.filterMap_map, List.map_filterMap, List.map_filterMap]
  congr 1
  apply List.filterMap_congr
  intro line hline
  refine map_eraseLength_lineFrame? (fun hcut => ?_) (h _ (List.mem_map_of_mem hline))
  simpa using CutStream.isOverlong_of_isCutPast hcut

/-- A blank line that is too long makes a frame if the stream is cut at its end, and none if the
    stream is read at once. -/
theorem exists_cuts_of_blank {limit : Nat} {stream line : Bytes}
    (hline : line ∈ completeLines stream) (hblank : (stripReturn line).isBlank = true)
    (hlong : isOverlong limit line = true) :
    ∃ pieces pieces' : List Bytes, pieces.flatten = stream ∧ pieces'.flatten = stream ∧
      discardCount (streamFrames limit pieces') = discardCount (streamFrames limit pieces) + 1 := by
  obtain ⟨hnl, front, back, rfl, hfront⟩ := exists_of_mem_completeLines hline
  -- What stands in front of the line makes the same frames in both ways to cut.
  have hstart : ∃ frames, ∀ rest, framesFrom limit [] false (front.map some ++ rest)
      = frames ++ framesFrom limit [] false rest := by
    rcases hfront with rfl | ⟨before, rfl⟩
    · exact ⟨[], fun rest => rfl⟩
    · obtain ⟨frames, hframes⟩ := exists_framesFrom_of_line limit (before.map some) [] false
      exact ⟨frames, fun rest => by simpa using hframes rest⟩
  obtain ⟨frames, hframes⟩ := hstart
  have hwhole : streamFrames limit [front ++ line ++ newline :: back]
      = frames ++ framesFrom limit [] false (back.map some ++ [none]) := by
    have hcut : cutStream [front ++ line ++ newline :: back]
        = front.map some ++ (line.map some ++ some newline :: (back.map some ++ [none])) := by
      simp [cutStream]
    rw [streamFrames_eq_framesFrom, hcut, hframes, framesFrom_append _ _ _ hnl, framesFrom,
      if_pos rfl]
    simp [lineFrame?, hblank]
  have hparts : streamFrames limit [front ++ line, newline :: back]
      = frames ++ .discarded line.length .oversized
        :: framesFrom limit [] false (back.map some ++ [none]) := by
    have hcut : cutStream [front ++ line, newline :: back]
        = front.map some
          ++ (line.map some ++ none :: some newline :: (back.map some ++ [none])) := by
      simp [cutStream]
    rw [streamFrames_eq_framesFrom, hcut, hframes, framesFrom_append _ _ _ hnl, framesFrom,
      framesFrom, if_pos rfl]
    simp [lineFrame?, hlong]
  refine ⟨[front ++ line ++ newline :: back], [front ++ line, newline :: back], by simp, by simp, ?_⟩
  rw [hwhole, hparts, discardCount, discardCount, List.countP_append, List.countP_append,
    List.countP_cons]
  simp [Frame.payload?, Nat.add_assoc]

/-- **Cuts are seen exactly in blank lines that are too long**, both in the frames without the
    numbers of dropped bytes and in how many frames note dropped bytes. -/
theorem cuts_unseen_iff (limit : Nat) (stream : Bytes) :
    (IsCutIndependent limit (List.map Frame.eraseLength) stream ↔
      ∀ content ∈ (completeLines stream).map stripReturn,
        content.isBlank → content.length ≤ limit) ∧
    (IsCutIndependent limit discardCount stream ↔
      ∀ content ∈ (completeLines stream).map stripReturn,
        content.isBlank → content.length ≤ limit) := by
  -- Equal frames are equally many, equally many leave no long blank line, and without such a line
  -- the frames are equal.
  have hcount (h : IsCutIndependent limit (List.map Frame.eraseLength) stream) :
      IsCutIndependent limit discardCount stream := by
    intro pieces pieces' hpieces hpieces'
    rw [← discardCount_map_eraseLength, h pieces pieces' hpieces hpieces',
      discardCount_map_eraseLength]
  have hshort (h : IsCutIndependent limit discardCount stream) :
      ∀ content ∈ (completeLines stream).map stripReturn,
        content.isBlank → content.length ≤ limit := by
    intro content hcontent hblank
    obtain ⟨line, hline, rfl⟩ := List.mem_map.1 hcontent
    by_contra hlong
    obtain ⟨pieces, pieces', hpieces, hpieces', hmore⟩ :=
      exists_cuts_of_blank hline hblank (decide_eq_true (Nat.not_le.1 hlong))
    have := h pieces pieces' hpieces hpieces'
    omega
  have hframes (h : ∀ content ∈ (completeLines stream).map stripReturn,
      content.isBlank → content.length ≤ limit) :
      IsCutIndependent limit (List.map Frame.eraseLength) stream := by
    intro pieces pieces' hpieces hpieces'
    have hlines : ∀ line ∈ completeLines stream, (stripReturn line).isBlank = true →
        isOverlong limit line = false := fun line hline hblank =>
      decide_eq_false (Nat.not_lt.2 (h _ (List.mem_map_of_mem hline) hblank))
    rw [map_eraseLength_streamFrames (by rwa [hpieces]),
      map_eraseLength_streamFrames (by rwa [hpieces']), hpieces, hpieces']
  exact ⟨⟨fun h => hshort (hcount h), hframes⟩, ⟨hshort, fun h => hcount (hframes h)⟩⟩

/-- A line of five blanks and a limit of two: read at once it is skipped, cut it is discarded. -/
theorem long_blank_line_cut :
    ¬ ∀ limit stream, IsCutIndependent limit (List.map Frame.eraseLength) stream := by
  intro h
  have hframes := h 2 (.ofText "     \n") [.ofText "     \n"] [.ofText "     ", .ofText "\n"]
    (by decide) (by decide)
  rw [streamFrames_eq_framesFrom, streamFrames_eq_framesFrom] at hframes
  revert hframes
  decide

end JobMonitor
