import JobMonitor.Channel.Frame

set_option autoImplicit false

/-! # Cutting a byte stream into frames

The bytes of a stream arrive in pieces. A framer keeps those that do not make up a line yet and
gives the frames of the complete lines. Blank lines give no frame. Of a line that grows past the
limit before its delimiter arrives nothing is kept but its length, so that the buffer stays small
and the line after it is found again. -/

namespace JobMonitor

/-- A framer and its buffer. -/
structure Framer where
  /-- The longest line that is a message. -/
  limit : Nat
  /-- Bytes that have arrived and belong to no frame yet. -/
  buffer : Bytes := []
  /-- How many bytes of the buffer are known to hold no delimiter. -/
  scanned : Nat := 0
  /-- The length of a line that is being dropped, as far as it has been dropped. -/
  discarding : Option Nat := none
deriving DecidableEq, Repr

/-- More bytes arrive. -/
def Framer.feed (f : Framer) (bytes : Bytes) : Framer := { f with buffer := f.buffer ++ bytes }

/-! ## One frame -/

/-- Where the first delimiter stands. The part that has been scanned is not looked at again. -/
def Framer.delimiterAt? (f : Framer) : Option Nat :=
  ((f.buffer.drop f.scanned).findIdx? (· == newline)).map (· + f.scanned)

theorem Framer.delimiterAt?_lt {f : Framer} {i : Nat} (h : f.delimiterAt? = some i) :
    i < f.buffer.length := by
  rw [Framer.delimiterAt?, Option.map_eq_some_iff] at h
  obtain ⟨j, hj, rfl⟩ := h
  obtain ⟨hlt, -⟩ := List.findIdx?_eq_some_iff_getElem.1 hj
  rw [List.length_drop] at hlt
  omega

/-- The line without a carriage return at its end. -/
def stripReturn (line : Bytes) : Bytes :=
  if line.getLast? = some carriageReturn then line.dropLast else line

/-- The most bytes that an unfinished line may have. A carriage return at its end may turn out to
    be part of the delimiter and does not count yet. -/
def Framer.pendingLimit (f : Framer) : Nat :=
  if f.buffer.getLast? = some carriageReturn then f.limit + 1 else f.limit

/-- Drops the buffer and remembers that the line goes on. -/
def Framer.discard (f : Framer) (soFar : Nat) : Framer :=
  { f with buffer := [], scanned := 0, discarding := some (soFar + f.buffer.length) }

/-- What is left behind a delimiter. -/
def Framer.behind (f : Framer) (delimiter : Nat) : Framer :=
  { f with buffer := f.buffer.drop (delimiter + 1), scanned := 0, discarding := none }

theorem Framer.behind_shorter {f : Framer} {i : Nat} (h : f.delimiterAt? = some i) :
    (f.behind i).buffer.length < f.buffer.length := by
  have := Framer.delimiterAt?_lt h
  simp only [Framer.behind, List.length_drop]
  omega

/-- The next frame, if the bytes that have arrived make one. -/
def Framer.next (f : Framer) : Option Frame × Framer :=
  match f.discarding, _h : f.delimiterAt? with
  | some soFar, some i => (some (.discarded (soFar + i) .oversized), f.behind i)
  | some soFar, none => (none, f.discard soFar)
  | none, some i =>
    let line := stripReturn (f.buffer.take i)
    if line.isBlank then (f.behind i).next
    else if line.length > f.limit then (some (.discarded line.length .oversized), f.behind i)
    else (some (.message line), f.behind i)
  | none, none =>
    if f.buffer.length > f.pendingLimit then (none, f.discard 0)
    else (none, { f with scanned := f.buffer.length })
termination_by f.buffer.length
decreasing_by exact Framer.behind_shorter _h

/-- A frame is made of bytes that leave the buffer. -/
theorem Framer.next_shorter (f : Framer) {frame : Frame} (h : f.next.1 = some frame) :
    f.next.2.buffer.length < f.buffer.length := by
  fun_induction Framer.next f with
  | case1 f soFar i hi hd => exact Framer.behind_shorter hi
  | case2 => simp at h
  | case3 f i hi hd line hb ih => exact Nat.lt_trans (ih h) (Framer.behind_shorter hi)
  | case4 f i hi hd line hb hl => exact Framer.behind_shorter hi
  | case5 f i hi hd line hb hl => exact Framer.behind_shorter hi
  | case6 => simp at h
  | case7 => simp at h

/-- A framer that has just given a frame is not in the middle of dropping a line. -/
theorem Framer.next_discarding (f : Framer) {frame : Frame} (h : f.next.1 = some frame) :
    f.next.2.discarding = none := by
  fun_induction Framer.next f with
  | case3 f i hi hd line hb ih => exact ih h
  | case1 | case4 | case5 => rfl
  | case2 | case6 | case7 => simp at h

/-! ## All frames -/

/-- All frames that the bytes that have arrived make. -/
def Framer.drain (f : Framer) : List Frame × Framer :=
  match _h : f.next with
  | (some frame, rest) =>
    let (frames, rest) := rest.drain
    (frame :: frames, rest)
  | (none, rest) => ([], rest)
termination_by f.buffer.length
decreasing_by
  have := f.next_shorter (congrArg Prod.fst _h)
  rwa [_h] at this

/-! ## The end of the stream -/

/-- One frame of what is left when no more bytes will arrive. -/
def Framer.finish (f : Framer) : Option Frame × Framer :=
  match f.next with
  | (some frame, rest) => (some frame, rest)
  | (none, rest) =>
    let fresh : Framer := { limit := f.limit }
    match rest.discarding with
    | some soFar => (some (.discarded (soFar + rest.buffer.length) .oversized), fresh)
    | none =>
      if rest.buffer.isBlank then (none, fresh)
      else (some (.discarded rest.buffer.length .unterminated), fresh)

/-- What the end of the stream has still to take care of. -/
def Framer.pending (f : Framer) : Nat := f.buffer.length + if f.discarding.isSome then 1 else 0

/-- Nothing comes of nothing. -/
theorem Framer.next_of_pending_eq_zero (f : Framer) (h : f.pending = 0) :
    f.next = (none, { f with scanned := 0 }) := by
  have hb : f.buffer = [] := by
    rw [Framer.pending] at h
    exact List.eq_nil_of_length_eq_zero (by omega)
  have hd : f.discarding = none := by
    cases hd : f.discarding with
    | none => rfl
    | some _ => simp [Framer.pending, hd] at h
  have ha : f.delimiterAt? = none := by simp [Framer.delimiterAt?, hb]
  rw [Framer.next]
  split
  · simp_all
  · simp_all
  · simp_all
  · simp [hb]

/-- Each frame at the end of the stream leaves less to take care of. -/
theorem Framer.finish_pending (f : Framer) {frame : Frame} (h : f.finish.1 = some frame) :
    f.finish.2.pending < f.pending := by
  by_cases h0 : f.pending = 0
  · rw [Framer.finish, f.next_of_pending_eq_zero h0] at h
    have hb : f.buffer = [] := by
      rw [Framer.pending] at h0
      exact List.eq_nil_of_length_eq_zero (by omega)
    have hd : f.discarding = none := by
      rw [Framer.pending] at h0
      cases hd : f.discarding with
      | none => rfl
      | some _ => simp [hd] at h0
    simp [hb, hd, Bytes.isBlank] at h
  · have hpos := Nat.pos_of_ne_zero h0
    rw [Framer.finish] at h ⊢
    rcases hn : f.next with ⟨_ | fr, g⟩
    · rw [hn] at h
      dsimp only at h ⊢
      split
      · simpa [Framer.pending] using hpos
      · split <;> simpa [Framer.pending] using hpos
    · have hs := f.next_shorter (congrArg Prod.fst hn)
      have hd := f.next_discarding (congrArg Prod.fst hn)
      rw [hn] at hs hd
      dsimp only at hs hd ⊢
      simp only [Framer.pending, hd, Option.isSome_none, Bool.false_eq_true, ↓reduceIte]
      omega

/-- All frames of what is left when no more bytes will arrive. -/
def Framer.finishAll (f : Framer) : List Frame × Framer :=
  match _h : f.finish with
  | (some frame, rest) =>
    let (frames, rest) := rest.finishAll
    (frame :: frames, rest)
  | (none, rest) => ([], rest)
termination_by f.pending
decreasing_by
  have := f.finish_pending (congrArg Prod.fst _h)
  rwa [_h] at this

end JobMonitor
