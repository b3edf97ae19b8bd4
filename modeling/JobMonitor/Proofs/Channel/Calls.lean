import Mathlib.Logic.Function.Iterate
import JobMonitor.Proofs.Channel.Reading

set_option autoImplicit false

/-! # A framer that is called in any order

Bytes arrive, the next frame is asked for, and the end of the stream is announced, in any order and also
again behind the end. What has been scanned lies in the buffer and holds no delimiter (`Framer.Sound`).
This is all that the calls rely on and it is kept by each of them, so a framer never looks outside its
buffer, misses no delimiter, keeps little and comes to an end with what it has
(`Framer.consistent_calls`). -/

namespace JobMonitor

/-! ## What has been scanned -/

/-- What has been scanned lies in the buffer and holds no delimiter. -/
structure Framer.Sound (f : Framer) : Prop where
  scanned_le : f.scanned ≤ f.buffer.length
  not_mem_scanned : newline ∉ f.buffer.take f.scanned

theorem Framer.sound_of_scanned_eq_zero {f : Framer} (h : f.scanned = 0) : f.Sound where
  scanned_le := h ▸ Nat.zero_le _
  not_mem_scanned := by simp [h]

theorem Framer.sound_of_not_mem {f : Framer} (h : newline ∉ f.buffer)
    (hs : f.scanned ≤ f.buffer.length) : f.Sound where
  scanned_le := hs
  not_mem_scanned := fun hmem => h (List.mem_of_mem_take hmem)

theorem Framer.sound_behind (f : Framer) (i : Nat) : (f.behind i).Sound :=
  Framer.sound_of_scanned_eq_zero rfl

theorem Framer.Sound.feed {f : Framer} (h : f.Sound) (bytes : Bytes) : (f.feed bytes).Sound where
  scanned_le := by
    simp only [Framer.feed, List.length_append]
    exact Nat.le_trans h.scanned_le (Nat.le_add_right _ _)
  not_mem_scanned := by
    simp only [Framer.feed, List.take_append_of_le_length h.scanned_le]
    exact h.not_mem_scanned

/-- The search may as well begin at the start of the buffer. -/
theorem Framer.Sound.delimiterAt?_eq {f : Framer} (h : f.Sound) :
    f.delimiterAt? = f.buffer.findIdx? (· == newline) := by
  have hnone : (f.buffer.take f.scanned).findIdx? (· == newline) = none := by
    rw [List.findIdx?_eq_none_iff]
    intro b hb
    rw [beq_eq_false_iff_ne]
    rintro rfl
    exact h.not_mem_scanned hb
  have hlength : (f.buffer.take f.scanned).length = f.scanned := by
    rw [List.length_take, Nat.min_eq_left h.scanned_le]
  conv_rhs => rw [← List.take_append_drop f.scanned f.buffer]
  rw [List.findIdx?_append, hnone, hlength, Option.none_or, delimiterAt?]

/-- The framer as it would be if nothing had been scanned. -/
def Framer.rescanned (f : Framer) : Framer := { f with scanned := 0 }

theorem Framer.Sound.not_mem_of_delimiterAt? {f : Framer} (h : f.Sound) (ha : f.delimiterAt? = none) :
    newline ∉ f.buffer := by
  rw [h.delimiterAt?_eq, List.findIdx?_eq_none_iff] at ha
  intro hmem
  simpa using ha newline hmem

/-! ## The next frame -/

/-- Of a framer that has no frame to give: all that it has kept has been scanned, it is not longer than a
    line with a carriage return may be, and nothing of a line that is dropped is kept. -/
structure Framer.Waits (f : Framer) : Prop where
  not_mem : newline ∉ f.buffer
  length_le : f.buffer.length ≤ f.limit + 1
  buffer_eq_nil : f.discarding.isSome → f.buffer = []
  scanned_eq : f.scanned = f.buffer.length

theorem Framer.Waits.sound {f : Framer} (h : f.Waits) : f.Sound :=
  Framer.sound_of_not_mem h.not_mem (Nat.le_of_eq h.scanned_eq)

theorem Framer.waits_discard (f : Framer) (soFar : Nat) : (f.discard soFar).Waits :=
  ⟨List.not_mem_nil, Nat.zero_le _, fun _ => rfl, rfl⟩

theorem Framer.pendingLimit_le (f : Framer) : f.pendingLimit ≤ f.limit + 1 := by
  rw [pendingLimit]
  split
  · exact Nat.le_refl _
  · exact Nat.le_succ _

theorem Framer.Sound.waits_of_next {f : Framer} (hf : f.Sound) (h : f.next.1 = none) :
    f.next.2.Waits := by
  fun_induction Framer.next f with
  | case1 | case4 | case5 => cases h
  | case2 f soFar => exact f.waits_discard soFar
  | case3 f i _ _ _ _ ih => exact ih (f.sound_behind i) h
  | case6 f => exact f.waits_discard 0
  | case7 f ha hd hl =>
    have hlimit := f.pendingLimit_le
    refine ⟨hf.not_mem_of_delimiterAt? ha, ?_, fun hsome => ?_, rfl⟩
    · exact Nat.le_trans (Nat.not_lt.1 hl) hlimit
    · simp [hd] at hsome

theorem Framer.scanned_of_next_some {f : Framer} {frame : Frame} (h : f.next.1 = some frame) :
    f.next.2.scanned = 0 := by
  fun_induction Framer.next f with
  | case1 | case4 | case5 => rfl
  | case3 f i _ _ _ _ ih => exact ih h
  | case2 | case6 | case7 => cases h

theorem Framer.Sound.next {f : Framer} (h : f.Sound) : f.next.2.Sound := by
  cases hframe : f.next.1 with
  | none => exact (h.waits_of_next hframe).sound
  | some frame => exact Framer.sound_of_scanned_eq_zero (Framer.scanned_of_next_some hframe)

theorem Framer.limit_next (f : Framer) : f.next.2.limit = f.limit := by
  fun_induction Framer.next f with
  | case3 f i _ _ _ _ ih => exact ih
  | case1 | case2 | case4 | case5 | case6 | case7 => rfl

/-- What has been scanned does not reach behind the first delimiter. -/
theorem Framer.Sound.scanned_le_of_line {f : Framer} (h : f.Sound) {line rest : Bytes}
    (hb : f.buffer = line ++ newline :: rest) : f.scanned ≤ line.length := by
  by_contra hlt
  obtain ⟨k, hk⟩ : ∃ k, f.scanned - line.length = k + 1 := ⟨f.scanned - line.length - 1, by omega⟩
  refine h.not_mem_scanned ?_
  rw [hb, List.take_append, hk, List.take_succ_cons]
  exact List.mem_append_right _ List.mem_cons_self

/-- The scan that is resumed gives the same as one from the start. -/
theorem Framer.Sound.next_rescanned {f : Framer} (h : f.Sound) : f.rescanned.next = f.next := by
  by_cases hmem : newline ∈ f.buffer
  · obtain ⟨line, rest, hb, hline⟩ := List.eq_append_cons_of_mem hmem
    have hs := h.scanned_le_of_line hb
    cases hd : f.discarding with
    | some soFar =>
      rw [Framer.next_of_dropped_line hb hline hs hd,
        Framer.next_of_dropped_line (f := f.rescanned) hb hline (Nat.zero_le _) hd]
      rfl
    | none =>
      rw [Framer.next_of_line hb hline hs hd,
        Framer.next_of_line (f := f.rescanned) hb hline (Nat.zero_le _) hd]
      rfl
  · rw [Framer.next_of_not_mem hmem, Framer.next_of_not_mem (f := f.rescanned) hmem]
    rfl

/-! ## The end of the stream -/

theorem Framer.limit_finish (f : Framer) : f.finish.2.limit = f.limit := by
  have hlimit := f.limit_next
  rw [finish]
  split
  · next frame rest hnext => rwa [hnext] at hlimit
  · split
    · rfl
    · split <;> rfl

/-- Behind the end of the stream nothing is left, or the framer has given a frame as it would have done
    before the end. -/
theorem Framer.finish_cases (f : Framer) :
    (∃ frame, f.next.1 = some frame ∧ f.finish = f.next) ∨
      f.next.1 = none ∧ f.finish.2 = { limit := f.limit } := by
  rcases hnext : f.next with ⟨_ | frame, rest⟩
  · refine .inr ⟨rfl, ?_⟩
    rw [finish, hnext]
    dsimp only
    split
    · rfl
    · split <;> rfl
  · refine .inl ⟨frame, rfl, ?_⟩
    rw [finish, hnext]

theorem Framer.Sound.finish {f : Framer} (h : f.Sound) : f.finish.2.Sound := by
  rcases f.finish_cases with ⟨frame, -, hfinish⟩ | ⟨-, hfresh⟩
  · rw [hfinish]
    exact h.next
  · rw [hfresh]
    exact Framer.sound_of_scanned_eq_zero rfl

theorem Framer.Sound.finish_rescanned {f : Framer} (h : f.Sound) : f.rescanned.finish = f.finish := by
  rw [Framer.finish, Framer.finish, h.next_rescanned]
  rfl

/-- If the end of the stream gives no frame, the framer is as good as new. -/
theorem Framer.finish_of_none {f : Framer} (h : f.finish.1 = none) :
    f.finish.2 = { limit := f.limit } := by
  rcases f.finish_cases with ⟨frame, hframe, hfinish⟩ | ⟨-, hfresh⟩
  · rw [hfinish, hframe] at h
    cases h
  · exact hfresh

/-! ## Frames use up what there is -/

/-- The second framer has less in its buffer, or has left a line that the first one was dropping. -/
def Framer.Advances (f g : Framer) : Prop :=
  g.buffer.length < f.buffer.length ∨ f.discarding.isSome ∧ g.discarding = none

theorem Framer.advances_next {f : Framer} {frame : Frame} (h : f.next.1 = some frame) :
    f.Advances f.next.2 :=
  .inl (f.next_shorter h)

theorem Framer.advances_finish {f : Framer} {frame : Frame} (h : f.finish.1 = some frame) :
    f.Advances f.finish.2 := by
  rcases f.finish_cases with ⟨frame', hnext, hfinish⟩ | ⟨-, hfresh⟩
  · rw [hfinish]
    exact Framer.advances_next hnext
  · have hpending := f.finish_pending h
    rw [hfresh] at hpending ⊢
    by_cases hdiscarding : f.discarding.isSome
    · exact .inr ⟨hdiscarding, rfl⟩
    · rw [pending, pending, if_neg hdiscarding] at hpending
      exact .inl (Nat.lt_of_le_of_lt (Nat.le_add_right _ _) hpending)

theorem Framer.next_pending {f : Framer} {frame : Frame} (h : f.next.1 = some frame) :
    f.next.2.pending < f.pending := by
  have hshorter := f.next_shorter h
  rw [pending, f.next_discarding h]
  exact Nat.lt_of_lt_of_le hshorter (Nat.le_add_right _ _)

/-- A call that uses something up for every frame gives none after as many calls as there is to use. -/
theorem Framer.exists_iterate_eq_none {call : Framer → Option Frame × Framer}
    (hcall : ∀ g frame, (call g).1 = some frame → (call g).2.pending < g.pending) (f : Framer) :
    ∃ n ≤ f.pending, (call ((fun g => (call g).2)^[n] f)).1 = none := by
  induction hn : f.pending using Nat.strongRecOn generalizing f with
  | ind pending ih =>
    subst hn
    cases hframe : (call f).1 with
    | none => exact ⟨0, Nat.zero_le _, hframe⟩
    | some frame =>
      have hless := hcall f frame hframe
      obtain ⟨n, hle, hnone⟩ := ih _ hless (call f).2 rfl
      exact ⟨n + 1, Nat.le_trans (Nat.succ_le_succ hle) hless, hnone⟩

/-! ## Calls -/

/-- What may be done with a framer: bytes arrive, it is asked for the next frame, or for one of what is
    left when no more bytes will arrive. -/
inductive FramerCall where
  | feed (bytes : Bytes)
  | next
  | finish

/-- What a call gives, and the framer after it. -/
def Framer.call (f : Framer) : FramerCall → Option Frame × Framer
  | .feed bytes => (none, f.feed bytes)
  | .next => f.next
  | .finish => f.finish

/-- The framer after calls one after another. -/
def Framer.calls (f : Framer) (calls : List FramerCall) : Framer :=
  calls.foldl (fun f call => (f.call call).2) f

theorem Framer.limit_call (f : Framer) (call : FramerCall) : (f.call call).2.limit = f.limit := by
  cases call with
  | feed bytes => rfl
  | next => exact f.limit_next
  | finish => exact f.limit_finish

theorem Framer.Sound.call {f : Framer} (h : f.Sound) (call : FramerCall) : (f.call call).2.Sound := by
  cases call with
  | feed bytes => exact h.feed bytes
  | next => exact h.next
  | finish => exact h.finish

theorem Framer.limit_calls (f : Framer) (calls : List FramerCall) :
    (f.calls calls).limit = f.limit := by
  induction calls generalizing f with
  | nil => rfl
  | cons call rest ih => exact (ih (f.call call).2).trans (f.limit_call call)

theorem Framer.Sound.calls {f : Framer} (h : f.Sound) (calls : List FramerCall) :
    (f.calls calls).Sound := by
  induction calls generalizing f with
  | nil => exact h
  | cons call rest ih => exact ih (h.call call)

/-! ## Where a framer looks -/

/-- In search of the next frame a framer looks at its buffer, and behind each blank line at what is left of
    it there. -/
inductive Framer.LooksAt (f : Framer) : Framer → Prop where
  | buffer : LooksAt f f
  | behind {g : Framer} {i : Nat} (h : LooksAt f g) (hd : g.discarding = none)
      (hi : g.delimiterAt? = some i) (hb : (stripReturn (g.buffer.take i)).isBlank = true) :
      LooksAt f (g.behind i)

theorem Framer.LooksAt.sound {f g : Framer} (h : f.LooksAt g) (hf : f.Sound) : g.Sound := by
  cases h with
  | buffer => exact hf
  | behind => exact Framer.sound_behind _ _

/-- A blank line is passed over. -/
theorem Framer.next_behind {f : Framer} {i : Nat} (hd : f.discarding = none)
    (hi : f.delimiterAt? = some i) (hb : (stripReturn (f.buffer.take i)).isBlank = true) :
    (f.behind i).next = f.next := by
  rw [Framer.next.eq_def f]
  split
  case h_3 j hd' hi' =>
    obtain rfl : i = j := Option.some.inj (hi.symm.trans hi')
    dsimp only
    rw [if_pos hb]
  all_goals simp_all

theorem Framer.LooksAt.next_eq {f g : Framer} (h : f.LooksAt g) : g.next = f.next := by
  induction h with
  | buffer => rfl
  | behind _ hd hi hb ih => exact (Framer.next_behind hd hi hb).trans ih

/-! ## Any calls -/

/-- What can be relied on when a framer is called. -/
structure Framer.Consistent (f : Framer) : Prop where
  /-- Wherever it looks for a frame, it looks inside the buffer. -/
  inside : ∀ g, f.LooksAt g → g.Sound ∧ g.next = f.next
  /-- It finds what it would find from the start. -/
  resumes : f.delimiterAt? = f.buffer.findIdx? (· == newline) ∧
    f.next = f.rescanned.next ∧ f.finish = f.rescanned.finish
  /-- Without a frame to give it keeps little. -/
  waits : f.next.1 = none → f.next.2.Waits
  /-- With a frame it gets on. -/
  advances : (∀ frame, f.next.1 = some frame → f.Advances f.next.2) ∧
    ∀ frame, f.finish.1 = some frame → f.Advances f.finish.2
  /-- It comes to an end, whether it is asked for the next frame again and again or for what is left. -/
  drains : (∃ n ≤ f.pending, ((fun g : Framer => g.next.2)^[n] f).next.1 = none) ∧
    ∃ n ≤ f.pending, ((fun g : Framer => g.finish.2)^[n] f).finish.1 = none
  /-- Behind the end of the stream it is as good as new. -/
  renewed : f.finish.1 = none → f.finish.2 = { limit := f.limit }
  /-- The room for a carriage return may be cut off at the greatest length that a buffer can have. -/
  saturates : ∀ most, f.buffer.length ≤ most →
    (min f.pendingLimit most < f.buffer.length ↔ f.pendingLimit < f.buffer.length)

theorem Framer.Sound.consistent {f : Framer} (h : f.Sound) : f.Consistent where
  inside _ hlooks := ⟨hlooks.sound h, hlooks.next_eq⟩
  resumes := ⟨h.delimiterAt?_eq, h.next_rescanned.symm, h.finish_rescanned.symm⟩
  waits := h.waits_of_next
  advances := ⟨fun _ => Framer.advances_next, fun _ => Framer.advances_finish⟩
  drains := ⟨Framer.exists_iterate_eq_none (fun _ _ => Framer.next_pending) f,
    Framer.exists_iterate_eq_none (fun g _ => g.finish_pending) f⟩
  renewed := Framer.finish_of_none
  saturates _ hlength := by omega

/-- **Whatever has been done with a framer, it can be relied on.** -/
theorem Framer.consistent_calls (limit : Nat) (calls : List FramerCall) :
    (Framer.calls { limit } calls).limit = limit ∧ (Framer.calls { limit } calls).Consistent :=
  ⟨Framer.limit_calls _ calls, ((Framer.sound_of_scanned_eq_zero rfl).calls calls).consistent⟩

end JobMonitor
