import JobMonitor.Proofs.Channel.Line

set_option autoImplicit false

/-! # Reading a stream in pieces

A framer that has read some pieces of a stream is in the middle of a line: it holds what it has
read of the line, or only the length if it is dropping the line. `Framer.midLine` is that state, and
it is all that a framer remembers. So a piece is read as its bytes one after another with a mark at
its end, and the frames of a stream are those of its lines, each by itself
(`streamFrames_eq_cutLineFrames`). -/

namespace JobMonitor

/-! ## Delimiters -/

theorem Framer.delimiterAt?_eq_none {f : Framer} (h : newline ∉ f.buffer) :
    f.delimiterAt? = none := by
  rw [Framer.delimiterAt?, Option.map_eq_none_iff, List.findIdx?_eq_none_iff]
  intro b hb
  rw [beq_eq_false_iff_ne]
  rintro rfl
  exact h (List.mem_of_mem_drop hb)

/-- The search misses no delimiter if what has been scanned holds none. -/
theorem Framer.delimiterAt?_eq_length {f : Framer} {line rest : Bytes}
    (hb : f.buffer = line ++ newline :: rest) (hl : newline ∉ line)
    (hs : f.scanned ≤ line.length) : f.delimiterAt? = some line.length := by
  have hdrop : f.buffer.drop f.scanned = line.drop f.scanned ++ newline :: rest := by
    rw [hb, List.drop_append_of_le_length hs]
  have hfind : (line.drop f.scanned ++ newline :: rest).findIdx? (· == newline)
      = some (line.length - f.scanned) := by
    rw [List.findIdx?_eq_some_iff_getElem]
    refine ⟨by simp, by simp, fun j hj => ?_⟩
    have hjl : j < (line.drop f.scanned).length := by simpa using hj
    rw [List.getElem_append_left hjl, Bool.not_eq_true, beq_eq_false_iff_ne]
    intro h
    exact hl (List.mem_of_mem_drop (h ▸ List.getElem_mem hjl))
  rw [Framer.delimiterAt?, hdrop, hfind, Option.map_some, Nat.sub_add_cancel hs]

/-- What stands behind a complete line is read afresh. -/
theorem Framer.behind_of_line {f : Framer} {line rest : Bytes}
    (hb : f.buffer = line ++ newline :: rest) :
    f.behind line.length = { limit := f.limit, buffer := rest } := by
  simp [Framer.behind, hb]

/-! ## The next frame -/

/-- Without a delimiter there is no frame. -/
theorem Framer.next_of_not_mem {f : Framer} (h : newline ∉ f.buffer) :
    f.next = (none, match f.discarding with
      | some soFar => f.discard soFar
      | none => if isOverlong f.limit f.buffer then f.discard 0
        else { f with scanned := f.buffer.length }) := by
  have ha := Framer.delimiterAt?_eq_none h
  rw [Framer.next]
  split
  · simp_all
  · next hd _ => rw [hd]
  · simp_all
  · next hd _ =>
    rw [hd]
    have := f.pendingLimit_lt_iff
    split <;> simp_all

theorem Framer.next_of_dropped_line {f : Framer} {line rest : Bytes} {soFar : Nat}
    (hb : f.buffer = line ++ newline :: rest) (hl : newline ∉ line)
    (hs : f.scanned ≤ line.length) (hd : f.discarding = some soFar) :
    f.next = (some (.discarded (soFar + line.length) .oversized),
      { limit := f.limit, buffer := rest }) := by
  have ha := Framer.delimiterAt?_eq_length hb hl hs
  rw [Framer.next]
  split
  · next soFar' i hd' hi =>
    obtain rfl : soFar = soFar' := Option.some.inj (hd.symm.trans hd')
    obtain rfl : line.length = i := Option.some.inj (ha.symm.trans hi)
    rw [Framer.behind_of_line hb]
  all_goals simp_all

theorem Framer.next_of_line {f : Framer} {line rest : Bytes}
    (hb : f.buffer = line ++ newline :: rest) (hl : newline ∉ line)
    (hs : f.scanned ≤ line.length) (hd : f.discarding = none) :
    f.next = match lineFrame? f.limit false line with
      | some frame => (some frame, { limit := f.limit, buffer := rest })
      | none => Framer.next { limit := f.limit, buffer := rest } := by
  have ha := Framer.delimiterAt?_eq_length hb hl hs
  rw [Framer.next]
  split
  case h_3 i hd' hi =>
    obtain rfl : line.length = i := Option.some.inj (ha.symm.trans hi)
    have htake : f.buffer.take line.length = line := by simp [hb]
    rw [Framer.behind_of_line hb, htake, lineFrame?]
    dsimp only
    by_cases hblank : (stripReturn line).isBlank
    · simp [hblank]
    · by_cases hlong : f.limit < (stripReturn line).length <;> simp [hblank, hlong]
  all_goals simp_all

/-! ## All frames -/

theorem Framer.drain_eq_of_next {f rest : Framer} {frame : Frame}
    (h : f.next = (some frame, rest)) : f.drain = (frame :: rest.drain.1, rest.drain.2) := by
  rw [Framer.drain]
  split <;> simp_all

theorem Framer.drain_eq_nil_of_next {f rest : Framer} (h : f.next = (none, rest)) :
    f.drain = ([], rest) := by
  rw [Framer.drain]
  split <;> simp_all

theorem Framer.drain_congr {f g : Framer} (h : f.next = g.next) : f.drain = g.drain := by
  rcases hg : g.next with ⟨_ | frame, rest⟩
  · rw [Framer.drain_eq_nil_of_next hg, Framer.drain_eq_nil_of_next (h.trans hg)]
  · rw [Framer.drain_eq_of_next hg, Framer.drain_eq_of_next (h.trans hg)]

theorem Framer.finishAll_eq_of_finish {f rest : Framer} {frame : Frame}
    (h : f.finish = (some frame, rest)) :
    f.finishAll = (frame :: rest.finishAll.1, rest.finishAll.2) := by
  rw [Framer.finishAll]
  split <;> simp_all

theorem Framer.finishAll_eq_nil_of_finish {f rest : Framer} (h : f.finish = (none, rest)) :
    f.finishAll = ([], rest) := by
  rw [Framer.finishAll]
  split <;> simp_all

/-! ## In the middle of a line -/

/-- A framer that has read so much of a line. -/
def Framer.midLine (limit : Nat) (line : Bytes) (isDropped : Bool) : Framer :=
  if isDropped then { limit, discarding := some line.length }
  else { limit, buffer := line, scanned := line.length }

@[simp]
theorem Framer.midLine_nil (limit : Nat) : Framer.midLine limit [] false = { limit } := rfl

theorem Framer.feed_midLine_dropped (limit : Nat) (line piece : Bytes) :
    (Framer.midLine limit line true).feed piece
      = { limit, buffer := piece, discarding := some line.length } := rfl

theorem Framer.feed_midLine_kept (limit : Nat) (line piece : Bytes) :
    (Framer.midLine limit line false).feed piece
      = { limit, buffer := line ++ piece, scanned := line.length } := rfl

/-- A piece without a delimiter continues the line. -/
theorem Framer.drain_feed_midLine (limit : Nat) {line piece : Bytes} (isDropped : Bool)
    (hline : newline ∉ line) (hpiece : newline ∉ piece) :
    ((Framer.midLine limit line isDropped).feed piece).drain
      = ([], Framer.midLine limit (line ++ piece)
          (isDropped || isOverlong limit (line ++ piece))) := by
  cases isDropped with
  | true =>
    rw [Framer.feed_midLine_dropped]
    apply Framer.drain_eq_nil_of_next
    rw [Framer.next_of_not_mem hpiece]
    simp [Framer.discard, Framer.midLine]
  | false =>
    have hmem : newline ∉ line ++ piece := by simp [hline, hpiece]
    rw [Framer.feed_midLine_kept]
    apply Framer.drain_eq_nil_of_next
    rw [Framer.next_of_not_mem hmem]
    by_cases hlong : isOverlong limit (line ++ piece) = true
    · simp [hlong, Framer.discard, Framer.midLine]
    · simp [hlong, Framer.midLine]

/-- A piece that completes the line makes its frame; what follows is read afresh. -/
theorem Framer.drain_feed_midLine_line (limit : Nat) {line rest : Bytes} (begun : Bytes)
    (isDropped : Bool) (hbegun : newline ∉ begun) (hline : newline ∉ line) :
    ((Framer.midLine limit begun isDropped).feed (line ++ newline :: rest)).drain
      = ((lineFrame? limit isDropped (begun ++ line)).toList
          ++ (Framer.feed { limit } rest).drain.1, (Framer.feed { limit } rest).drain.2) := by
  cases isDropped with
  | true =>
    rw [Framer.feed_midLine_dropped,
      Framer.drain_eq_of_next (Framer.next_of_dropped_line rfl hline (Nat.zero_le _) rfl)]
    simp [lineFrame?, Framer.feed]
  | false =>
    have hmem : newline ∉ begun ++ line := by simp [hbegun, hline]
    rw [Framer.feed_midLine_kept]
    have hn := @Framer.next_of_line
      { limit, buffer := begun ++ (line ++ newline :: rest), scanned := begun.length }
      (begun ++ line) rest (List.append_assoc ..).symm hmem (by simp) rfl
    cases hframe : lineFrame? limit false (begun ++ line) with
    | none =>
      rw [hframe] at hn
      rw [Framer.drain_congr hn]
      simp [Framer.feed]
    | some frame =>
      rw [hframe] at hn
      rw [Framer.drain_eq_of_next hn]
      simp [Framer.feed]

theorem Framer.finish_midLine (limit : Nat) {line : Bytes} (isDropped : Bool)
    (h : newline ∉ line) :
    (Framer.midLine limit line isDropped).finish = (endFrame? limit isDropped line, { limit }) := by
  cases isDropped with
  | true =>
    rw [Framer.finish, Framer.next_of_not_mem (by simp [Framer.midLine])]
    simp [Framer.midLine, Framer.discard, endFrame?]
  | false =>
    rw [Framer.finish, Framer.next_of_not_mem (by simpa [Framer.midLine] using h)]
    by_cases hlong : isOverlong limit line = true
    · simp [Framer.midLine, Framer.discard, endFrame?, hlong]
    · by_cases hblank : line.isBlank <;> simp [Framer.midLine, endFrame?, hlong, hblank]

/-- The end of the stream makes at most one frame. -/
theorem Framer.finishAll_midLine (limit : Nat) {line : Bytes} (isDropped : Bool)
    (h : newline ∉ line) :
    (Framer.midLine limit line isDropped).finishAll
      = ((endFrame? limit isDropped line).toList, { limit }) := by
  have hfresh : Framer.finishAll { limit } = ([], { limit }) := by
    apply Framer.finishAll_eq_nil_of_finish
    have hfinish := @Framer.finish_midLine limit [] false List.not_mem_nil
    simpa [endFrame?, isOverlong, stripReturn, Bytes.isBlank] using hfinish
  have hfinish := Framer.finish_midLine limit isDropped h
  cases hend : endFrame? limit isDropped line with
  | none => rw [Framer.finishAll_eq_nil_of_finish (hend ▸ hfinish), Option.toList_none]
  | some frame =>
    rw [Framer.finishAll_eq_of_finish (hend ▸ hfinish), hfresh, Option.toList_some]

/-! ## Byte by byte -/

/-- The frames of the rest of a stream of which part of a line has been read. -/
def framesFrom (limit : Nat) (line : Bytes) (isDropped : Bool) : CutStream → List Frame
  | [] => (endFrame? limit isDropped line).toList
  | none :: rest => framesFrom limit line (isDropped || isOverlong limit line) rest
  | some b :: rest =>
    if b = newline then (lineFrame? limit isDropped line).toList ++ framesFrom limit [] false rest
    else framesFrom limit (line ++ [b]) isDropped rest

theorem framesFrom_append {limit : Nat} {more : Bytes} (line : Bytes) (isDropped : Bool)
    (rest : CutStream) (h : newline ∉ more) :
    framesFrom limit line isDropped (more.map some ++ rest)
      = framesFrom limit (line ++ more) isDropped rest := by
  induction more generalizing line with
  | nil => simp
  | cons b more ih =>
    have hb : b ≠ newline := Ne.symm (List.ne_of_not_mem_cons h)
    have hmore : newline ∉ more := List.not_mem_of_not_mem_cons h
    rw [List.map_cons, List.cons_append, framesFrom, if_neg hb, ih _ hmore, List.append_assoc,
      List.singleton_append]

/-- Behind a delimiter a stream is read as if nothing had been there before. -/
theorem exists_framesFrom_of_line (limit : Nat) (front : CutStream) (line : Bytes)
    (isDropped : Bool) :
    ∃ frames, ∀ rest, framesFrom limit line isDropped (front ++ some newline :: rest)
      = frames ++ framesFrom limit [] false rest := by
  induction front generalizing line isDropped with
  | nil => exact ⟨(lineFrame? limit isDropped line).toList, fun rest => by simp [framesFrom]⟩
  | cons b front ih =>
    cases b with
    | none => exact ih line (isDropped || isOverlong limit line)
    | some b =>
      by_cases hb : b = newline
      · obtain ⟨frames, hframes⟩ := ih [] false
        refine ⟨(lineFrame? limit isDropped line).toList ++ frames, fun rest => ?_⟩
        rw [List.cons_append, framesFrom, if_pos hb, hframes, List.append_assoc]
      · obtain ⟨frames, hframes⟩ := ih (line ++ [b]) isDropped
        refine ⟨frames, fun rest => ?_⟩
        rw [List.cons_append, framesFrom, if_neg hb, hframes]

/-! ## Piece by piece -/

/-- Reads a stream that arrives in pieces. Behind each piece all frames are taken. -/
def Framer.readPieces (f : Framer) : List Bytes → List Frame × Framer
  | [] => ([], f)
  | piece :: rest =>
    let (frames, f) := (f.feed piece).drain
    let (more, f) := f.readPieces rest
    (frames ++ more, f)

/-- The frames of a stream that arrives in pieces and then ends. -/
def streamFrames (limit : Nat) (pieces : List Bytes) : List Frame :=
  let read := Framer.readPieces { limit } pieces
  read.1 ++ read.2.finishAll.1

/-- A piece is read as its bytes one after another, and leaves the framer in the middle of a line. -/
theorem Framer.exists_midLine_of_drain (limit : Nat) (piece : Bytes) {line : Bytes}
    (isDropped : Bool) (h : newline ∉ line) :
    ∃ line' isDropped', newline ∉ line' ∧
      ((Framer.midLine limit line isDropped).feed piece).drain.2
        = Framer.midLine limit line' isDropped' ∧
      ∀ rest, ((Framer.midLine limit line isDropped).feed piece).drain.1
          ++ framesFrom limit line' isDropped' rest
        = framesFrom limit line isDropped (piece.map some ++ none :: rest) := by
  -- Induction on the length, since what stands behind the first delimiter is a shorter piece.
  induction hn : piece.length using Nat.strongRecOn generalizing piece line isDropped with
  | ind n ih =>
    by_cases hpiece : newline ∈ piece
    · obtain ⟨front, back, rfl, hfront⟩ := List.eq_append_cons_of_mem hpiece
      obtain ⟨line', isDropped', hline', hstate, hframes⟩ :=
        ih back.length (by simp [← hn]; omega) back false List.not_mem_nil rfl
      rw [Framer.midLine_nil] at hstate hframes
      rw [Framer.drain_feed_midLine_line limit line isDropped h hfront]
      refine ⟨line', isDropped', hline', hstate, fun rest => ?_⟩
      rw [List.map_append, List.append_assoc (front.map some), framesFrom_append _ _ _ hfront,
        List.map_cons, List.cons_append, framesFrom, if_pos rfl, List.append_assoc, hframes]
    · rw [Framer.drain_feed_midLine limit isDropped h hpiece]
      refine ⟨line ++ piece, _, by simp [h, hpiece], rfl, fun rest => ?_⟩
      rw [framesFrom_append _ _ _ hpiece, framesFrom, List.nil_append]

theorem Framer.exists_midLine_of_readPieces (limit : Nat) (pieces : List Bytes) {line : Bytes}
    (isDropped : Bool) (h : newline ∉ line) :
    ∃ line' isDropped', newline ∉ line' ∧
      ((Framer.midLine limit line isDropped).readPieces pieces).2
        = Framer.midLine limit line' isDropped' ∧
      ∀ rest, ((Framer.midLine limit line isDropped).readPieces pieces).1
          ++ framesFrom limit line' isDropped' rest
        = framesFrom limit line isDropped (cutStream pieces ++ rest) := by
  induction pieces generalizing line isDropped with
  | nil => exact ⟨line, isDropped, h, rfl, fun rest => rfl⟩
  | cons piece pieces ih =>
    obtain ⟨line', isDropped', hline', hstate, hframes⟩ :=
      Framer.exists_midLine_of_drain limit piece isDropped h
    obtain ⟨line'', isDropped'', hline'', hstate', hframes'⟩ := ih isDropped' hline'
    simp only [Framer.readPieces]
    rw [hstate]
    refine ⟨line'', isDropped'', hline'', hstate', fun rest => ?_⟩
    have hcut : cutStream (piece :: pieces) ++ rest
        = piece.map some ++ none :: (cutStream pieces ++ rest) := by
      simp [cutStream]
    rw [hcut, ← hframes, ← hframes', List.append_assoc]

/-- The frames of a stream that arrives in pieces are those of its bytes with the cuts marked. -/
theorem streamFrames_eq_framesFrom (limit : Nat) (pieces : List Bytes) :
    streamFrames limit pieces = framesFrom limit [] false (cutStream pieces) := by
  obtain ⟨line, isDropped, hline, hstate, hframes⟩ :=
    Framer.exists_midLine_of_readPieces limit pieces false List.not_mem_nil
  have hend := hframes []
  rw [List.append_nil, framesFrom, Framer.midLine_nil] at hend
  rw [Framer.midLine_nil] at hstate
  dsimp only [streamFrames]
  rw [hstate, Framer.finishAll_midLine limit isDropped hline, hend]

/-! ## Line by line -/

theorem endFrame?_of_isCutPast (limit : Nat) (line : CutStream) :
    endFrame? limit (line.isCutPast limit []) line.bytes = endFrame? limit false line.bytes := by
  cases hcut : line.isCutPast limit [] with
  | false => rfl
  | true =>
    have hlong : isOverlong limit line.bytes = true := by
      simpa using CutStream.isOverlong_of_isCutPast hcut
    simp [endFrame?, hlong]

/-- The first line is judged with what has been read of it, the others by themselves. -/
theorem framesFrom_eq (limit : Nat) (s : CutStream) {line : Bytes} {isDropped : Bool}
    {first : CutStream} {others : List CutStream}
    (h : s.splitOn (some newline) = first :: others) :
    framesFrom limit line isDropped s
      = if others = [] then
          (endFrame? limit (isDropped || first.isCutPast limit line) (line ++ first.bytes)).toList
        else (lineFrame? limit (isDropped || first.isCutPast limit line)
          (line ++ first.bytes)).toList ++ cutLineFrames limit others := by
  -- On the bytes and marks of the stream. A byte lengthens the first line or ends it, and a mark only
  -- says that the line has been cut there, so what has been read of it stays a parameter.
  induction s generalizing line isDropped first others with
  | nil =>
    obtain ⟨rfl, rfl⟩ : [] = first ∧ [] = others := by simpa using h
    simp [framesFrom, CutStream.isCutPast]
  | cons b rest ih =>
    obtain ⟨head, tail, hrest⟩ :=
      List.exists_cons_of_ne_nil (List.splitOn_ne_nil (some newline) rest)
    rw [List.splitOn_cons_eq_if_modifyHead, hrest] at h
    cases b with
    | none =>
      obtain ⟨rfl, rfl⟩ : none :: head = first ∧ tail = others := by simpa using h
      rw [framesFrom, ih hrest]
      simp [CutStream.isCutPast, Bool.or_assoc]
    | some b =>
      by_cases hb : b = newline
      · obtain ⟨rfl, rfl⟩ : [] = first ∧ head :: tail = others := by simpa [hb] using h
        rw [framesFrom, if_pos hb, ih hrest, if_neg (List.cons_ne_nil _ _)]
        cases tail with
        | nil => simp [cutLineFrames, CutStream.isCutPast, endFrame?_of_isCutPast]
        | cons second tail =>
          rw [cutLineFrames_cons limit head (List.cons_ne_nil _ _)]
          simp [CutStream.isCutPast]
      · obtain ⟨rfl, rfl⟩ : some b :: head = first ∧ tail = others := by simpa [hb] using h
        rw [framesFrom, if_neg hb, ih hrest]
        simp [CutStream.isCutPast]

/-- **Each line makes its frame by itself.** Of how the stream was cut it matters only whether a
    line was cut where it was too long already. -/
theorem streamFrames_eq_cutLineFrames (limit : Nat) (pieces : List Bytes) :
    streamFrames limit pieces = cutLineFrames limit (cutLines pieces) := by
  obtain ⟨first, others, h⟩ :=
    List.exists_cons_of_ne_nil (List.splitOn_ne_nil (some newline) (cutStream pieces))
  rw [streamFrames_eq_framesFrom, framesFrom_eq limit _ h, cutLines, h]
  cases others with
  | nil => simp [cutLineFrames, endFrame?_of_isCutPast]
  | cons second others =>
    rw [cutLineFrames_cons limit first (List.cons_ne_nil _ _)]
    simp

end JobMonitor
