import JobMonitor.Channel.Store
import JobMonitor.Proofs.Channel.Reading

set_option autoImplicit false

/-! # A stream of messages

A stream that holds nothing but messages, each with its delimiter, is read as these messages, however
it is cut. `Framer.Awaits` says what a framer knows in the middle of such a stream: what it has kept,
and what is left to be read, are together the lines of the messages that it has not given yet. Bytes
that are read move from one part to the other, a message that is written is added at the end, and a
frame that is given is the first of the messages. -/

namespace JobMonitor

/-! ## Lines of messages -/

/-- A payload that arrives as it is. -/
structure IsSendable (limit : Nat) (payload : Bytes) : Prop where
  singleLine : newline ∉ payload
  notBlank : payload.isBlank = false
  noReturn : payload.getLast? ≠ some carriageReturn
  short : payload.length ≤ limit

/-- The stream of some messages. -/
def messageStream (payloads : List Bytes) : Bytes := payloads.flatMap (· ++ [newline])

theorem messageStream_cons (payload : Bytes) (rest : List Bytes) :
    messageStream (payload :: rest) = payload ++ newline :: messageStream rest := by
  rw [messageStream, List.flatMap_cons, List.append_assoc]
  rfl

theorem messageStream_concat (payloads : List Bytes) (payload : Bytes) :
    messageStream (payloads ++ [payload]) = messageStream payloads ++ (payload ++ [newline]) := by
  rw [messageStream, List.flatMap_append, List.flatMap_singleton]
  rfl

/-- A stream starts with one line only. -/
theorem append_newline_inj {line line' back back' : Bytes} (hline : newline ∉ line)
    (hline' : newline ∉ line') (h : line ++ newline :: back = line' ++ newline :: back') :
    line = line' ∧ back = back' := by
  have hsplit := congrArg (List.splitOn newline) h
  rw [List.splitOn_append_cons_self_of_not_mem hline,
    List.splitOn_append_cons_self_of_not_mem hline'] at hsplit
  obtain ⟨rfl, -⟩ := List.cons.inj hsplit
  exact ⟨rfl, (List.cons.inj (List.append_cancel_left h)).2⟩

/-- The line of a payload that arrives as it is makes a message. -/
theorem lineFrame?_of_sendable {limit : Nat} {payload : Bytes} (h : IsSendable limit payload) :
    lineFrame? limit false payload = some (.message payload) := by
  have hstrip : stripReturn payload = payload := by rw [stripReturn, if_neg h.noReturn]
  simp only [lineFrame?, hstrip, h.notBlank, Bool.false_eq_true, if_false]
  rw [if_neg (Nat.not_lt.2 h.short)]

/-- What has arrived of a message is not too long before the whole message is. -/
theorem not_isOverlong_of_length_le {limit : Nat} {line : Bytes} (h : line.length ≤ limit) :
    isOverlong limit line = false := by
  rw [isOverlong, decide_eq_false_iff_not, stripReturn_length]
  split <;> omega

/-- A part of a stream that ends before the first delimiter is a part of the first message. -/
theorem length_le_of_messageStream {front back payload : Bytes} {rest : List Bytes}
    (hfront : newline ∉ front) (h : front ++ back = messageStream (payload :: rest)) :
    front.length ≤ payload.length := by
  rw [messageStream_cons, List.append_eq_append_iff] at h
  rcases h with ⟨more, rfl, -⟩ | ⟨more, rfl, hmore⟩
  · rw [List.length_append]
    exact Nat.le_add_right _ _
  · cases more with
    | nil => exact Nat.le_of_eq (by rw [List.append_nil])
    | cons b more =>
      obtain ⟨rfl, -⟩ := List.cons.inj hmore
      exact absurd (List.mem_append_right _ List.mem_cons_self) hfront

/-! ## Framers in the middle of a stream -/

/-- A framer that reads a stream of messages has still to give these, and so much of the stream is
    left to be read. -/
structure Framer.Awaits (limit : Nat) (f : Framer) (left : Bytes) (pending : List Bytes) : Prop where
  limit_eq : f.limit = limit
  discarding_eq : f.discarding = none
  scanned_le : f.scanned ≤ f.buffer.length
  not_mem_scanned : newline ∉ f.buffer.take f.scanned
  stream : f.buffer ++ left = messageStream pending
  sendable : ∀ payload ∈ pending, IsSendable limit payload

variable {limit : Nat} {f : Framer} {left : Bytes} {pending : List Bytes}

/-- A new framer has nothing to give. -/
theorem Framer.awaits_nil (limit : Nat) : Framer.Awaits limit { limit } [] [] where
  limit_eq := rfl
  discarding_eq := rfl
  scanned_le := Nat.le_refl 0
  not_mem_scanned := List.not_mem_nil
  stream := rfl
  sendable := fun _ h => absurd h List.not_mem_nil

/-- Reading changes nothing about what has to be given. -/
theorem Framer.Awaits.feed {chunk : Bytes} (h : f.Awaits limit (chunk ++ left) pending) :
    (f.feed chunk).Awaits limit left pending where
  limit_eq := h.limit_eq
  discarding_eq := h.discarding_eq
  scanned_le := by
    show f.scanned ≤ (f.buffer ++ chunk).length
    rw [List.length_append]
    exact Nat.le_add_right_of_le h.scanned_le
  not_mem_scanned := by
    show newline ∉ (f.buffer ++ chunk).take f.scanned
    rw [List.take_append_of_le_length h.scanned_le]
    exact h.not_mem_scanned
  stream := by
    show f.buffer ++ chunk ++ left = _
    rw [List.append_assoc]
    exact h.stream
  sendable := h.sendable

/-- A message that is written behind the others has to be given after them. -/
theorem Framer.Awaits.write {payload : Bytes} (h : f.Awaits limit left pending)
    (hpayload : IsSendable limit payload) :
    f.Awaits limit (left ++ (payload ++ [newline])) (pending ++ [payload]) where
  limit_eq := h.limit_eq
  discarding_eq := h.discarding_eq
  scanned_le := h.scanned_le
  not_mem_scanned := h.not_mem_scanned
  stream := by rw [← List.append_assoc, h.stream, messageStream_concat]
  sendable := by
    intro p hp
    rcases List.mem_append.1 hp with hp | hp
    · exact h.sendable p hp
    · rw [List.mem_singleton.1 hp]
      exact hpayload

/-! ## The next message -/

/-- When a delimiter has arrived, the first message is given. -/
theorem Framer.Awaits.next_of_mem (h : f.Awaits limit left pending) (hmem : newline ∈ f.buffer) :
    ∃ payload rest, pending = payload :: rest ∧ f.next.1 = some (.message payload) ∧
      f.next.2.Awaits limit left rest := by
  obtain ⟨front, back, hbuffer, hfront⟩ := List.eq_append_cons_of_mem hmem
  have hstream := h.stream
  cases pending with
  | nil =>
    rw [hbuffer] at hstream
    exact absurd hstream (by simp [messageStream])
  | cons payload rest =>
    have hpayload := h.sendable payload List.mem_cons_self
    rw [messageStream_cons, hbuffer, List.append_assoc, List.cons_append] at hstream
    obtain ⟨rfl, hback⟩ := append_newline_inj hfront hpayload.singleLine hstream
    -- The search for a delimiter has not gone past this one, or it would have been found.
    have hscanned : f.scanned ≤ front.length := by
      by_contra hlt
      refine h.not_mem_scanned ?_
      rw [hbuffer, List.take_append, List.mem_append]
      obtain ⟨n, hn⟩ : ∃ n, f.scanned - front.length = n + 1 := ⟨f.scanned - front.length - 1, by omega⟩
      rw [hn, List.take_succ_cons]
      exact .inr List.mem_cons_self
    rw [Framer.next_of_line hbuffer hfront hscanned h.discarding_eq, h.limit_eq,
      lineFrame?_of_sendable hpayload]
    exact ⟨front, rest, rfl, rfl,
      { limit_eq := rfl
        discarding_eq := rfl
        scanned_le := Nat.zero_le _
        not_mem_scanned := List.not_mem_nil
        stream := hback
        sendable := fun p hp => h.sendable p (List.mem_cons_of_mem _ hp) }⟩

/-- When none has arrived, no frame is given and nothing is dropped. -/
theorem Framer.Awaits.next_of_not_mem (h : f.Awaits limit left pending)
    (hmem : newline ∉ f.buffer) :
    f.next.1 = none ∧ f.next.2.Awaits limit left pending := by
  -- What has arrived is the beginning of the first message, so it is not dropped as too long.
  have hshort : isOverlong f.limit f.buffer = false := by
    cases pending with
    | nil =>
      have hempty := (List.append_eq_nil_iff.1 h.stream).1
      rw [hempty]
      rfl
    | cons payload rest =>
      have hpayload := (h.sendable payload List.mem_cons_self).short
      rw [h.limit_eq]
      exact not_isOverlong_of_length_le
        (Nat.le_trans (length_le_of_messageStream hmem h.stream) hpayload)
  rw [Framer.next_of_not_mem hmem, h.discarding_eq, hshort]
  exact ⟨rfl,
    { limit_eq := h.limit_eq
      discarding_eq := rfl
      scanned_le := Nat.le_refl _
      not_mem_scanned := by
        show newline ∉ f.buffer.take f.buffer.length
        rwa [List.take_length]
      stream := h.stream
      sendable := h.sendable }⟩

/-- A frame that is given is the first message that has not been given. -/
theorem Framer.Awaits.of_next_some {frame : Frame} {g : Framer} (h : f.Awaits limit left pending)
    (hnext : f.next = (some frame, g)) :
    ∃ payload rest, pending = payload :: rest ∧ frame = .message payload ∧
      g.Awaits limit left rest := by
  by_cases hmem : newline ∈ f.buffer
  · obtain ⟨payload, rest, hpending, hframe, hrest⟩ := h.next_of_mem hmem
    rw [hnext] at hframe hrest
    exact ⟨payload, rest, hpending, Option.some.inj hframe, hrest⟩
  · have hframe := (h.next_of_not_mem hmem).1
    rw [hnext] at hframe
    exact absurd hframe (Option.some_ne_none frame)

/-- If no frame is given, no message has arrived as a whole. -/
theorem Framer.Awaits.of_next_none {g : Framer} (h : f.Awaits limit left pending)
    (hnext : f.next = (none, g)) : newline ∉ f.buffer ∧ g.Awaits limit left pending := by
  by_cases hmem : newline ∈ f.buffer
  · obtain ⟨payload, rest, -, hframe, -⟩ := h.next_of_mem hmem
    rw [hnext] at hframe
    exact absurd hframe.symm (Option.some_ne_none _)
  · have hrest := (h.next_of_not_mem hmem).2
    rw [hnext] at hrest
    exact ⟨hmem, hrest⟩

/-- When everything has been read, what has not arrived as a whole is nothing. -/
theorem Framer.Awaits.pending_eq_nil (h : f.Awaits limit [] pending) (hmem : newline ∉ f.buffer) :
    pending = [] := by
  cases pending with
  | nil => rfl
  | cons payload rest =>
    have hstream := h.stream
    rw [List.append_nil, messageStream_cons] at hstream
    rw [hstream] at hmem
    exact absurd (List.mem_append_right _ List.mem_cons_self) hmem

/-- When everything has been read, all messages are given and nothing is left. -/
theorem Framer.Awaits.drain (h : f.Awaits limit [] pending) :
    f.drain.1 = pending.map Frame.message ∧ f.drain.2.Awaits limit [] [] := by
  fun_induction Framer.drain f generalizing pending with
  | case1 f frame g hnext frames after hdrain ih =>
    obtain ⟨payload, rest, rfl, rfl, hrest⟩ := h.of_next_some hnext
    have hframes := ih hrest
    rw [hdrain] at hframes
    exact ⟨congrArg (Frame.message payload :: ·) hframes.1, hframes.2⟩
  | case2 f g hnext =>
    obtain ⟨hmem, hrest⟩ := h.of_next_none hnext
    obtain rfl := h.pending_eq_nil hmem
    exact ⟨rfl, hrest⟩

/-- Where nothing waits, nothing is left. -/
theorem Framer.pull_nil (f : Framer) (store : Store) : (f.pull store []).2.2.2 = [] := by
  rw [Framer.pull]
  split
  · rfl
  · rw [if_pos rfl]

/-- **The reader finds the first message that has not been given**, whatever pieces its store makes
    it read the stream in, and finds none only when all have been given. -/
theorem Framer.Awaits.pull (h : f.Awaits limit left pending) (store : Store) :
    (f.pull store left).1 = pending.head?.map Frame.message ∧
      (f.pull store left).2.1.Awaits limit (f.pull store left).2.2.2 pending.tail := by
  fun_induction Framer.pull f store left with
  | case1 f store left frame g hnext =>
    obtain ⟨payload, rest, rfl, rfl, hrest⟩ := h.of_next_some hnext
    exact ⟨rfl, hrest⟩
  | case2 f store g hnext =>
    obtain ⟨hmem, hrest⟩ := h.of_next_none hnext
    obtain rfl := h.pending_eq_nil hmem
    exact ⟨rfl, hrest⟩
  | case3 f store left g hnext _ hleft _ count ih =>
    -- The invariant does not depend on how many bytes the store has room for.
    refine ih (Framer.Awaits.feed ?_)
    rw [List.take_append_drop]
    exact (h.of_next_none hnext).2

end JobMonitor
