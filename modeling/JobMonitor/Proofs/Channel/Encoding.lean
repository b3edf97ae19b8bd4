import JobMonitor.Proofs.Channel.Cuts
import JobMonitor.Proofs.Channel.Messages

set_option autoImplicit false

/-! # Frames that are written and read

The writing end appends the line of a payload to what it has to send, or refuses the payload and
appends nothing. The reading end knows neither the payloads nor where one write ends: it strips a
carriage return, skips what is blank and drops what is too long. What it makes of the lines that were
written is said here in full (`frames_of_written`). If it admits lines as long as the writing end does,
no piece of them is ever too long, so nothing is dropped, and every payload that is not blank arrives,
less one carriage return at its end. -/

namespace JobMonitor

/-! ## Writing -/

/-- Writes the line of a payload behind what the destination holds. -/
def appendFrame (limit : Nat) (destination payload : Bytes) : Except FrameError Unit × Bytes :=
  match encodeFrame limit payload with
  | .ok frame => (.ok (), destination ++ frame)
  | .error e => (.error e, destination)

/-- What the destination holds after some payloads. Those that are refused are passed over. -/
def appendFrames (limit : Nat) (destination : Bytes) (payloads : List Bytes) : Bytes :=
  payloads.foldl (fun destination payload => (appendFrame limit destination payload).2) destination

/-- The payload is a single line that is not too long. -/
def IsFrameable (limit : Nat) (payload : Bytes) : Prop :=
  newline ∉ payload ∧ payload.length ≤ limit

instance (limit : Nat) (payload : Bytes) : Decidable (IsFrameable limit payload) :=
  inferInstanceAs (Decidable (_ ∧ _))

theorem appendFrame_of_frameable {limit : Nat} {payload : Bytes} (destination : Bytes)
    (h : IsFrameable limit payload) :
    appendFrame limit destination payload = (.ok (), destination ++ (payload ++ [newline])) := by
  rw [appendFrame, encodeFrame, if_neg h.1, if_neg (Nat.not_lt.2 h.2)]

theorem exists_appendFrame_of_not_frameable {limit : Nat} {payload : Bytes} (destination : Bytes)
    (h : ¬ IsFrameable limit payload) :
    ∃ e, appendFrame limit destination payload = (.error e, destination) := by
  by_cases hmem : newline ∈ payload
  · exact ⟨.containsDelimiter, by rw [appendFrame, encodeFrame, if_pos hmem]⟩
  · have hlong : payload.length > limit := Nat.not_le.1 fun hle => h ⟨hmem, hle⟩
    exact ⟨.tooLong payload.length limit, by
      rw [appendFrame, encodeFrame, if_neg hmem, if_pos hlong]⟩

/-- The destination gets the lines of the payloads that are accepted. -/
theorem appendFrames_eq (limit : Nat) (destination : Bytes) (payloads : List Bytes) :
    appendFrames limit destination payloads
      = destination ++ messageStream (payloads.filter fun p => IsFrameable limit p) := by
  induction payloads generalizing destination with
  | nil => simp [appendFrames, messageStream]
  | cons payload rest ih =>
    rw [appendFrames, List.foldl_cons, ← appendFrames, ih]
    by_cases h : IsFrameable limit payload
    · rw [appendFrame_of_frameable destination h, List.filter_cons_of_pos (by simpa using h),
        messageStream_cons]
      simp
    · obtain ⟨e, he⟩ := exists_appendFrame_of_not_frameable destination h
      rw [he, List.filter_cons_of_neg (by simpa using h)]

/-! ## Reading -/

/-- A carriage return is blank, so a line is as blank without it. -/
theorem isBlank_stripReturn (line : Bytes) : (stripReturn line).isBlank = line.isBlank := by
  unfold stripReturn
  split
  · next hlast =>
    obtain ⟨front, rfl⟩ := List.getLast?_eq_some_iff.1 hlast
    rw [List.dropLast_concat, Bytes.isBlank, Bytes.isBlank, List.all_append]
    simp [isBlankByte, carriageReturn]
  · rfl

/-- A line loses one carriage return at its end and nothing else. -/
theorem eq_stripReturn_append (line : Bytes) :
    line = stripReturn line
      ++ if line.getLast? = some carriageReturn then [carriageReturn] else [] := by
  unfold stripReturn
  split
  · next hlast =>
    obtain ⟨front, rfl⟩ := List.getLast?_eq_some_iff.1 hlast
    rw [List.dropLast_concat]
  · rw [List.append_nil]

/-- The line of a payload that is not too long makes a message if it is not blank. -/
theorem lineFrame?_of_length_le {limit : Nat} {line : Bytes} (h : line.length ≤ limit) :
    lineFrame? limit false line
      = if line.isBlank then none else some (.message (stripReturn line)) := by
  have hshort : ¬ limit < (stripReturn line).length := by
    simpa [isOverlong] using not_isOverlong_of_length_le h
  simp only [lineFrame?, Bool.false_eq_true, if_false, isBlank_stripReturn, if_neg hshort]

/-- The lines of a stream of single lines. -/
theorem splitOn_messageStream {lines : List Bytes} (h : ∀ line ∈ lines, newline ∉ line) :
    (messageStream lines).splitOn newline = lines ++ [[]] := by
  induction lines with
  | nil => simp [messageStream]
  | cons line rest ih =>
    rw [messageStream_cons,
      List.splitOn_append_cons_self_of_not_mem (h line List.mem_cons_self),
      ih fun l hl => h l (List.mem_cons_of_mem _ hl), List.cons_append]

/-- Lines that are not too long are never dropped, so they make their frames as if they had been read
    at once. -/
theorem streamFrames_of_short_lines {limit : Nat} {pieces : List Bytes}
    (h : ∀ line ∈ completeLines pieces.flatten, line.length ≤ limit) :
    streamFrames limit pieces
      = (completeLines pieces.flatten).filterMap (lineFrame? limit false)
        ++ (endFrame? limit false (unfinishedLine pieces.flatten)).toList := by
  rw [completeLines_flatten] at h ⊢
  rw [streamFrames_eq_cutLineFrames, cutLineFrames, unfinishedLine_flatten, List.filterMap_map]
  congr 1
  apply List.filterMap_congr
  intro line hline
  cases hcut : line.isCutPast limit [] with
  | false => rfl
  | true =>
    have hlong : isOverlong limit line.bytes = true := by
      simpa using CutStream.isOverlong_of_isCutPast hcut
    rw [not_isOverlong_of_length_le (h _ (List.mem_map_of_mem hline))] at hlong
    exact absurd hlong Bool.false_ne_true

/-- If a stream makes nothing but messages, none of them waits for the end of the stream. -/
theorem readPieces_of_messages {limit : Nat} {pieces payloads : List Bytes}
    (h : streamFrames limit pieces = payloads.map Frame.message) :
    (Framer.readPieces { limit } pieces).1 = payloads.map Frame.message := by
  obtain ⟨line, isDropped, hline, hstate, -⟩ :=
    Framer.exists_midLine_of_readPieces limit pieces false List.not_mem_nil
  rw [Framer.midLine_nil] at hstate
  dsimp only [streamFrames] at h
  rw [hstate, Framer.finishAll_midLine limit isDropped hline] at h
  -- What is left at the end of the stream would be no message.
  cases hend : endFrame? limit isDropped line with
  | none => rwa [hend, Option.toList_none, List.append_nil] at h
  | some frame =>
    have hmem : frame ∈ payloads.map Frame.message := by
      rw [← h, hend]
      exact List.mem_append_right _ (by simp)
    obtain ⟨payload, -, rfl⟩ := List.mem_map.1 hmem
    have hnone := payload?_endFrame? limit isDropped line
    rw [hend] at hnone
    exact absurd hnone (by simp [Frame.payload?])

/-! ## Written and read -/

/-- What arrives of payloads that are written: those that are accepted and not blank, less a carriage
    return at the end. -/
def arrivals (limit : Nat) (payloads : List Bytes) : List Bytes :=
  ((payloads.filter fun p => IsFrameable limit p).filter fun p => !p.isBlank).map stripReturn

theorem streamFrames_appendFrames {written read : Nat} {payloads pieces : List Bytes}
    (hlimit : written ≤ read) (hpieces : pieces.flatten = appendFrames written [] payloads) :
    streamFrames read pieces = (arrivals written payloads).map Frame.message := by
  set lines := payloads.filter fun p => IsFrameable written p with hlines
  have hframeable : ∀ line ∈ lines, IsFrameable written line := fun line hline => by
    simpa using List.of_mem_filter hline
  have hsplit : pieces.flatten.splitOn newline = lines ++ [[]] := by
    rw [hpieces, appendFrames_eq, List.nil_append,
      splitOn_messageStream fun line hline => (hframeable line hline).1]
  have hcomplete : completeLines pieces.flatten = lines := by
    rw [completeLines, hsplit, List.dropLast_concat]
  have hrest : unfinishedLine pieces.flatten = [] := by
    rw [unfinishedLine, hsplit, List.getLastD_concat]
  have hend : endFrame? read false [] = none := by
    simp [endFrame?, isOverlong, stripReturn, Bytes.isBlank]
  have hshort : ∀ line ∈ lines, line.length ≤ read := fun line hline =>
    Nat.le_trans (hframeable line hline).2 hlimit
  have hframes : lines.filterMap (lineFrame? read false)
      = lines.filterMap fun line =>
        if line.isBlank then none else some (.message (stripReturn line)) :=
    List.filterMap_congr fun line hline => lineFrame?_of_length_le (hshort line hline)
  have hguard : (fun line : Bytes =>
        if line.isBlank then none else some (Frame.message (stripReturn line)))
      = fun line => (Option.guard (fun p : Bytes => !p.isBlank) line).map
        fun p => Frame.message (stripReturn p) := by
    funext line
    cases hblank : line.isBlank <;> simp [Option.guard, hblank]
  rw [streamFrames_of_short_lines (by rwa [hcomplete]), hcomplete, hrest, hend, Option.toList_none,
    List.append_nil, hframes, hguard, ← List.map_filterMap, List.filterMap_eq_filter, arrivals,
    List.map_map]
  rfl

/-- **What is written arrives.** A payload is accepted exactly if it is a single line that is not too
    long; then its line is appended, else the destination is left as it is. A reading end with a limit
    that is no lower makes of everything that was written, however it is cut, one message for each
    payload that was accepted and is not blank, in order and without waiting for the end of the stream,
    and no other frame. The message is the payload less one carriage return at its end. -/
theorem frames_of_written {written read : Nat} (hlimit : written ≤ read) (payloads : List Bytes) :
    (∀ destination payload,
      appendFrame written destination payload = (.ok (), destination ++ (payload ++ [newline])) ∧
          newline ∉ payload ∧ payload.length ≤ written ∨
        (∃ e, appendFrame written destination payload = (.error e, destination)) ∧
          ¬ (newline ∉ payload ∧ payload.length ≤ written)) ∧
    appendFrames written [] payloads
      = (payloads.filter fun p => newline ∉ p ∧ p.length ≤ written).flatMap (· ++ [newline]) ∧
    (∀ pieces : List Bytes, pieces.flatten = appendFrames written [] payloads →
      (Framer.readPieces { limit := read } pieces).1
          = (arrivals written payloads).map Frame.message ∧
        streamFrames read pieces = (arrivals written payloads).map Frame.message) ∧
    ∀ payload : Bytes, payload = stripReturn payload
      ++ if payload.getLast? = some carriageReturn then [carriageReturn] else [] := by
  refine ⟨fun destination payload => ?_, appendFrames_eq written [] payloads, fun pieces hpieces => ?_,
    eq_stripReturn_append⟩
  · by_cases h : IsFrameable written payload
    · exact .inl ⟨appendFrame_of_frameable destination h, h⟩
    · exact .inr ⟨exists_appendFrame_of_not_frameable destination h, h⟩
  · have hframes := streamFrames_appendFrames hlimit hpieces
    exact ⟨readPieces_of_messages hframes, hframes⟩

/-- Four bytes and a carriage return between two payloads that a limit of five allows, and one payload
    that it does not, read with the same limit in three pieces. -/
theorem frames_of_written_returned :
    5 ≤ 5 ∧
      (Framer.readPieces { limit := 5 } [.ofText "ab\nabcd\r", .ofText "\n  \nx", .ofText "\n"]).1
        = [.message (.ofText "ab"), .message (.ofText "abcd"), .message (.ofText "x")] :=
  ⟨Nat.le_refl 5,
    ((frames_of_written (Nat.le_refl 5)
      [.ofText "ab", .ofText "abcd\r", .ofText "abcdef", .ofText "  ", .ofText "x"]).2.2.1
        [.ofText "ab\nabcd\r", .ofText "\n  \nx", .ofText "\n"] (by decide)).1.trans (by decide)⟩

end JobMonitor
