import Mathlib.Data.List.ReduceOption
import JobMonitor.Channel.Framer

set_option autoImplicit false

/-! # The lines of a stream

A stream is its complete lines, each with its delimiter, and what stands behind the last one. A
stream that arrives in pieces is written as a list of bytes with the ends of the pieces marked in
it, so that its lines still show where they have been cut. What becomes of a line is said here
without a framer: `lineFrame?` for a complete line and `endFrame?` for an unfinished one. -/

namespace JobMonitor

/-! ## Lines -/

/-- The complete lines of a stream, without their delimiters. -/
def completeLines (stream : Bytes) : List Bytes := (stream.splitOn newline).dropLast

/-- What stands behind the last delimiter of a stream. -/
def unfinishedLine (stream : Bytes) : Bytes := (stream.splitOn newline).getLastD []

/-- A complete line stands at the start of the stream or behind a delimiter. -/
theorem exists_of_mem_completeLines {stream line : Bytes} (h : line ∈ completeLines stream) :
    newline ∉ line ∧ ∃ front back, stream = front ++ line ++ newline :: back ∧
      (front = [] ∨ ∃ before, front = before ++ [newline]) := by
  induction hn : stream.length using Nat.strongRecOn generalizing stream with
  | ind n ih =>
    by_cases hmem : newline ∈ stream
    · obtain ⟨first, back, rfl, hfirst⟩ := List.eq_append_cons_of_mem hmem
      rw [completeLines, List.splitOn_append_cons_self_of_not_mem hfirst,
        List.dropLast_cons_of_ne_nil (List.splitOn_ne_nil _ _), List.mem_cons] at h
      rcases h with rfl | h
      · exact ⟨hfirst, [], back, by simp, .inl rfl⟩
      · obtain ⟨hline, front, back', rfl, hfront⟩ := ih back.length (by simp [← hn]; omega) h rfl
        refine ⟨hline, first ++ newline :: front, back', by simp, .inr ?_⟩
        rcases hfront with rfl | ⟨before, rfl⟩
        · exact ⟨first, rfl⟩
        · exact ⟨first ++ newline :: before, by simp⟩
    · rw [completeLines, List.splitOn_eq_singleton hmem] at h
      simp at h

/-! ## The length of a line -/

/-- The line is longer than a message may be, not counting a carriage return at its end. -/
def isOverlong (limit : Nat) (line : Bytes) : Bool := limit < (stripReturn line).length

theorem stripReturn_length (line : Bytes) :
    (stripReturn line).length
      = if line.getLast? = some carriageReturn then line.length - 1 else line.length := by
  unfold stripReturn
  split <;> simp

/-- A line that is too long stays so when it goes on. The first byte more makes up for the carriage
    return that may have been at its end. -/
theorem isOverlong_append {limit : Nat} {line : Bytes} (more : Bytes)
    (h : isOverlong limit line = true) : isOverlong limit (line ++ more) = true := by
  rcases List.eq_nil_or_concat more with rfl | ⟨front, last, rfl⟩
  · rwa [List.append_nil]
  · rw [isOverlong, decide_eq_true_iff, stripReturn_length] at h ⊢
    simp only [List.concat_eq_append, List.length_append, List.length_singleton]
    split at h <;> split <;> omega

/-- A framer stops keeping a line when it is too long. -/
theorem Framer.pendingLimit_lt_iff (f : Framer) :
    f.pendingLimit < f.buffer.length ↔ isOverlong f.limit f.buffer = true := by
  rw [isOverlong, decide_eq_true_iff, stripReturn_length, Framer.pendingLimit]
  split
  · omega
  · exact Iff.rfl

/-! ## The frame of a line -/

/-- The frame that a complete line makes, if it makes one. -/
def lineFrame? (limit : Nat) (isDropped : Bool) (line : Bytes) : Option Frame :=
  let content := stripReturn line
  if isDropped then some (.discarded line.length .oversized)
  else if content.isBlank then none
  else if limit < content.length then some (.discarded content.length .oversized)
  else some (.message content)

/-- The frame of what is left when the stream ends. -/
def endFrame? (limit : Nat) (isDropped : Bool) (line : Bytes) : Option Frame :=
  if isDropped || isOverlong limit line then some (.discarded line.length .oversized)
  else if line.isBlank then none
  else some (.discarded line.length .unterminated)

/-! ## Streams with cuts in them -/

/-- A byte of a stream, or `none` where a piece ends. -/
abbrev CutStream := List (Option UInt8)

/-- The bytes of a cut stream. -/
abbrev CutStream.bytes (s : CutStream) : Bytes := s.reduceOption

/-- A stream with the ends of its pieces marked. -/
def cutStream (pieces : List Bytes) : CutStream :=
  pieces.flatMap fun piece => piece.map some ++ [none]

/-- The lines of a stream that arrives in pieces, with the cuts in them. -/
def cutLines (pieces : List Bytes) : List CutStream := (cutStream pieces).splitOn (some newline)

theorem cutStream_bytes (pieces : List Bytes) : (cutStream pieces).bytes = pieces.flatten := by
  induction pieces with
  | nil => rfl
  | cons piece rest ih =>
    have hpiece : List.reduceOption (piece.map some) = piece := by
      rw [List.reduceOption, List.filterMap_map]
      exact List.filterMap_some
    rw [List.flatten_cons, ← ih, cutStream, List.flatMap_cons, CutStream.bytes,
      List.reduceOption_append, List.reduceOption_append, hpiece]
    simp [cutStream]

/-- The lines of the bytes are the bytes of the lines. -/
theorem CutStream.map_bytes_splitOn (s : CutStream) :
    (s.splitOn (some newline)).map CutStream.bytes = s.bytes.splitOn newline := by
  induction s with
  | nil => simp
  | cons b rest ih =>
    obtain ⟨head, tail, hrest⟩ :=
      List.exists_cons_of_ne_nil (List.splitOn_ne_nil (some newline) rest)
    cases b with
    | none =>
      rw [CutStream.bytes, List.reduceOption_cons_of_none, ← ih, List.splitOn_cons_eq_if_modifyHead]
      simp [hrest]
    | some b =>
      rw [CutStream.bytes, List.reduceOption_cons_of_some, List.splitOn_cons_eq_if_modifyHead,
        List.splitOn_cons_eq_if_modifyHead, ← ih]
      by_cases hb : b = newline <;> simp [hrest, hb]

theorem map_bytes_cutLines (pieces : List Bytes) :
    (cutLines pieces).map CutStream.bytes = pieces.flatten.splitOn newline := by
  rw [cutLines, CutStream.map_bytes_splitOn, cutStream_bytes]

theorem completeLines_flatten (pieces : List Bytes) :
    completeLines pieces.flatten = (cutLines pieces).dropLast.map CutStream.bytes := by
  rw [completeLines, ← map_bytes_cutLines, List.map_dropLast]

theorem unfinishedLine_flatten (pieces : List Bytes) :
    unfinishedLine pieces.flatten = (List.getLastD (cutLines pieces) []).bytes := by
  rw [unfinishedLine, ← map_bytes_cutLines, List.getLastD_eq_getLast?, List.getLastD_eq_getLast?,
    List.getLast?_map]
  cases (cutLines pieces).getLast? <;> rfl

/-- The stream is cut where more of the line had been read than may be kept. `begun` is what
    stands in front. -/
def CutStream.isCutPast (limit : Nat) (begun : Bytes) : CutStream → Bool
  | [] => false
  | none :: rest => isOverlong limit begun || CutStream.isCutPast limit begun rest
  | some b :: rest => CutStream.isCutPast limit (begun ++ [b]) rest

/-- A line that is cut past the limit is too long. -/
theorem CutStream.isOverlong_of_isCutPast {limit : Nat} {begun : Bytes} {line : CutStream}
    (h : line.isCutPast limit begun = true) : isOverlong limit (begun ++ line.bytes) = true := by
  induction line generalizing begun with
  | nil => simp [CutStream.isCutPast] at h
  | cons b rest ih =>
    cases b with
    | none =>
      rw [CutStream.isCutPast, Bool.or_eq_true] at h
      rw [CutStream.bytes, List.reduceOption_cons_of_none]
      rcases h with h | h
      · exact isOverlong_append _ h
      · exact ih h
    | some b =>
      rw [CutStream.isCutPast] at h
      rw [CutStream.bytes, List.reduceOption_cons_of_some]
      simpa using ih h

/-- The frames of lines with cuts in them, the last one unfinished. -/
def cutLineFrames (limit : Nat) (lines : List CutStream) : List Frame :=
  lines.dropLast.filterMap (fun line => lineFrame? limit (line.isCutPast limit []) line.bytes)
    ++ (endFrame? limit false (lines.getLastD []).bytes).toList

theorem cutLineFrames_cons (limit : Nat) (line : CutStream) {lines : List CutStream}
    (h : lines ≠ []) :
    cutLineFrames limit (line :: lines)
      = (lineFrame? limit (line.isCutPast limit []) line.bytes).toList
        ++ cutLineFrames limit lines := by
  obtain ⟨next, rest, rfl⟩ := List.exists_cons_of_ne_nil h
  rw [cutLineFrames, List.dropLast_cons_cons, List.filterMap_cons]
  cases lineFrame? limit (line.isCutPast limit []) line.bytes <;> simp [cutLineFrames]

end JobMonitor
