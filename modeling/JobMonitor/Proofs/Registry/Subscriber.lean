import JobMonitor.Registry.Feed

set_option autoImplicit false

/-! # What a subscriber still has to read

A subscriber is behind by the messages that have been published since the last one it received.
Publishing adds to them, receiving takes the first of them, and what other subscribers do leaves
them alone. As long as they are no more than the feed has room for, the feed still has all of them. -/

namespace JobMonitor

variable {α : Type}

/-- The subscriber has still to read the messages `unread`: it is that many behind, and they are the
    newest of what has been sent, as are the messages that the feed keeps. -/
structure Feed.HasUnread (f : Feed α) (name : String) (unread : List α) : Prop where
  position : ∃ p, f.position? name = some p ∧ p + unread.length = f.published
  newest : ∃ sent, f.kept <:+ sent ∧ unread <:+ sent

/-- The messages `unread` come behind a position in what has been sent: they are the newest of it, as
    are the messages that the feed keeps. -/
structure Feed.UnreadFrom (f : Feed α) (position : Nat) (unread : List α) : Prop where
  behind : position + unread.length = f.published
  newest : ∃ sent, f.kept <:+ sent ∧ unread <:+ sent

theorem Feed.hasUnread_iff {f : Feed α} {name : String} {unread : List α} :
    f.HasUnread name unread ↔ ∃ p, f.position? name = some p ∧ f.UnreadFrom p unread :=
  ⟨fun ⟨⟨p, hp, hbehind⟩, hnewest⟩ => ⟨p, hp, hbehind, hnewest⟩,
    fun ⟨p, hp, hbehind, hnewest⟩ => ⟨⟨p, hp, hbehind⟩, hnewest⟩⟩

/-! ## The subscribers of a feed -/

theorem lookup_filter_of_ne {name other : String} (h : name ≠ other)
    (subscribers : List (String × Nat)) :
    (subscribers.filter (·.1 ≠ other)).lookup name = subscribers.lookup name := by
  induction subscribers with
  | nil => rfl
  | cons s rest ih =>
    obtain ⟨n, p⟩ := s
    by_cases hn : n = other
    · have hne : (name == n) = false := by simpa [hn] using h
      rw [List.filter_cons_of_neg (by simpa using hn), ih, List.lookup_cons, hne]
    · rw [List.filter_cons_of_pos (by simpa using hn), List.lookup_cons, List.lookup_cons, ih]

/-- The position of one subscriber is set. -/
theorem lookup_map_position (name other : String) (position : Nat)
    (subscribers : List (String × Nat)) :
    (subscribers.map fun s => if s.1 = other then (other, position) else s).lookup name
      = if name = other then (subscribers.lookup name).map fun _ => position
        else subscribers.lookup name := by
  induction subscribers with
  | nil => simp
  | cons s rest ih =>
    obtain ⟨n, p⟩ := s
    rw [List.map_cons, List.lookup_cons, List.lookup_cons, ih]
    by_cases hother : name = other
    · subst hother
      by_cases hn : n = name
      · simp [hn]
      · have : (name == n) = false := by simpa using Ne.symm hn
        simp [hn, this]
    · by_cases hn : n = other
      · have : (name == n) = false := by simpa [hn] using hother
        have : (name == other) = false := by simpa using hother
        simp [hn, hother, this]
      · simp [hn, hother]

/-! ## Publishing -/

theorem Feed.capacity_publish (f : Feed α) (m : α) : (f.publish m).capacity = f.capacity := by
  rw [Feed.publish]
  split <;> rfl

theorem Feed.capacity_publishAll (f : Feed α) (messages : List α) :
    (f.publishAll messages).capacity = f.capacity := by
  induction messages generalizing f with
  | nil => rfl
  | cons m rest ih => exact (ih (f.publish m)).trans (f.capacity_publish m)

theorem Feed.subscribers_publish (f : Feed α) (m : α) :
    (f.publish m).subscribers = f.subscribers := by
  rw [Feed.publish]
  split <;> rfl

theorem Feed.subscribers_publishAll (f : Feed α) (messages : List α) :
    (f.publishAll messages).subscribers = f.subscribers := by
  induction messages generalizing f with
  | nil => rfl
  | cons m rest ih => exact (ih (f.publish m)).trans (f.subscribers_publish m)

theorem Feed.position?_publishAll (f : Feed α) (messages : List α) (name : String) :
    (f.publishAll messages).position? name = f.position? name := by
  rw [position?, f.subscribers_publishAll, position?]

/-- If somebody is subscribed the message is published. -/
theorem Feed.UnreadFrom.publish {f : Feed α} {position : Nat} {unread : List α}
    (h : f.UnreadFrom position unread) (hsome : f.subscribers ≠ []) (m : α) :
    (f.publish m).UnreadFrom position (unread ++ [m]) := by
  obtain ⟨hbehind, sent, hkept, hunread⟩ := h
  have hsome : f.subscribers.isEmpty = false := List.isEmpty_eq_false_iff.2 hsome
  refine ⟨?_, sent ++ [m], ?_, ?_⟩
  · rw [Feed.publish, hsome, List.length_append, List.length_singleton, ← Nat.add_assoc, hbehind]
    rfl
  · have hall : f.kept ++ [m] <:+ sent ++ [m] := by
      obtain ⟨old, hold⟩ := hkept
      exact ⟨old, by rw [← List.append_assoc, hold]⟩
    rw [Feed.publish, hsome]
    exact (List.drop_suffix _ _).trans hall
  · obtain ⟨old, hold⟩ := hunread
    exact ⟨old, by rw [← List.append_assoc, hold]⟩

theorem Feed.UnreadFrom.publishAll {f : Feed α} {position : Nat} {unread : List α}
    (h : f.UnreadFrom position unread) (hsome : f.subscribers ≠ []) (messages : List α) :
    (f.publishAll messages).UnreadFrom position (unread ++ messages) := by
  induction messages generalizing f unread with
  | nil => simpa [Feed.publishAll] using h
  | cons m rest ih =>
    have hrest := ih (h.publish hsome m) (by rwa [f.subscribers_publish])
    rwa [List.append_assoc] at hrest

theorem Feed.subscribers_ne_nil_of_position {f : Feed α} {name : String} {p : Nat}
    (h : f.position? name = some p) : f.subscribers ≠ [] := by
  intro hnil
  rw [position?, hnil] at h
  cases h

theorem Feed.HasUnread.publishAll {f : Feed α} {name : String} {unread : List α}
    (h : f.HasUnread name unread) (messages : List α) :
    (f.publishAll messages).HasUnread name (unread ++ messages) := by
  obtain ⟨p, hp, hunread⟩ := Feed.hasUnread_iff.1 h
  exact Feed.hasUnread_iff.2 ⟨p, (f.position?_publishAll messages name).trans hp,
    hunread.publishAll (Feed.subscribers_ne_nil_of_position hp) messages⟩

/-! ## Subscribing -/

/-- Whoever has just subscribed has nothing to read. -/
theorem Feed.hasUnread_subscribe (f : Feed α) (name : String) :
    (f.subscribe name).HasUnread name [] :=
  ⟨⟨f.published, by simp [Feed.position?, Feed.subscribe], rfl⟩,
    f.kept, List.suffix_rfl, List.nil_suffix⟩

theorem Feed.HasUnread.subscribe_of_ne {f : Feed α} {name other : String} {unread : List α}
    (h : f.HasUnread name unread) (hne : name ≠ other) :
    (f.subscribe other).HasUnread name unread := by
  obtain ⟨⟨p, hp, hbehind⟩, hnewest⟩ := h
  refine ⟨⟨p, ?_, hbehind⟩, hnewest⟩
  have : (name == other) = false := by simpa using hne
  rw [← hp, Feed.position?, Feed.subscribe, List.lookup_cons, this]
  exact lookup_filter_of_ne hne f.subscribers

theorem Feed.HasUnread.unsubscribe_of_ne {f : Feed α} {name other : String} {unread : List α}
    (h : f.HasUnread name unread) (hne : name ≠ other) :
    (f.unsubscribe other).HasUnread name unread := by
  obtain ⟨⟨p, hp, hbehind⟩, hnewest⟩ := h
  exact ⟨⟨p, (lookup_filter_of_ne hne f.subscribers).trans hp, hbehind⟩, hnewest⟩

/-! ## Receiving -/

/-- A feed hands out messages and stays as it is, up to the positions of its subscribers. -/
theorem Feed.receive_unchanged (f : Feed α) (name : String) :
    (f.receive name).2.capacity = f.capacity ∧ (f.receive name).2.published = f.published ∧
      (f.receive name).2.kept = f.kept := by
  rw [Feed.receive]
  split <;> exact ⟨rfl, rfl, rfl⟩

theorem Feed.receive_of_position {f : Feed α} {name : String} {p : Nat}
    (h : f.position? name = some p) :
    (f.receive name).1 = (f.receiveFrom p).1 ∧
      (f.receive name).2.position? name = some (f.receiveFrom p).2 := by
  rw [Feed.receive, h]
  refine ⟨rfl, ?_⟩
  rw [Feed.position?, lookup_map_position, if_pos rfl, ← Feed.position?, h]
  rfl

theorem Feed.HasUnread.receive_of_ne {f : Feed α} {name other : String} {unread : List α}
    (h : f.HasUnread name unread) (hne : name ≠ other) :
    (f.receive other).2.HasUnread name unread := by
  obtain ⟨⟨p, hp, hbehind⟩, hnewest⟩ := h
  rw [Feed.receive]
  split
  · exact ⟨⟨p, hp, hbehind⟩, hnewest⟩
  · refine ⟨⟨p, ?_, hbehind⟩, hnewest⟩
    rw [← hp]
    exact (lookup_map_position ..).trans (if_neg hne)

/-- From a position that is behind by no more than the feed has room for, the first unread message is
    found, and then the others are to be read. -/
theorem Feed.UnreadFrom.receiveFrom {f : Feed α} {position : Nat} {unread : List α}
    (h : f.UnreadFrom position unread) (hroom : unread.length ≤ f.capacity) :
    (f.receiveFrom position).1 = unread.head?.elim .empty .message ∧
      f.UnreadFrom (f.receiveFrom position).2 unread.tail := by
  obtain ⟨hbehind, sent, hkept, hunread⟩ := h
  -- What is unread is the end of what is kept, so the first of it stands that far from the end.
  have houtstanding : f.published - position = unread.length := by omega
  have hlength : unread.length ≤ f.kept.length := by rw [f.kept_length]; omega
  obtain ⟨old, hold⟩ := List.suffix_of_suffix_length_le hunread hkept hlength
  have hnext : f.kept[f.kept.length - unread.length]? = unread.head? := by
    rw [← hold, List.length_append, Nat.add_sub_cancel, List.getElem?_append_right (Nat.le_refl _),
      Nat.sub_self, List.head?_eq_getElem?]
  rw [Feed.receiveFrom]
  simp only [houtstanding, gt_iff_lt, Nat.not_lt.2 hlength, if_false, hnext]
  cases unread with
  | nil => exact ⟨rfl, hbehind, sent, hkept, hunread⟩
  | cons m rest =>
    refine ⟨rfl, ?_, sent, hkept, (List.suffix_cons m rest).trans hunread⟩
    rw [← hbehind, List.tail_cons, List.length_cons]
    exact Nat.add_right_comm position 1 rest.length

/-- A subscriber that is behind by no more than the feed has room for finds the first message that
    it has not read, and then has the others to read. -/
theorem Feed.HasUnread.receive {f : Feed α} {name : String} {unread : List α}
    (h : f.HasUnread name unread) (hroom : unread.length ≤ f.capacity) :
    (f.receive name).1 = unread.head?.elim .empty .message ∧
      (f.receive name).2.HasUnread name unread.tail := by
  obtain ⟨p, hp, hunread⟩ := Feed.hasUnread_iff.1 h
  obtain ⟨-, hpublished, hkept⟩ := f.receive_unchanged name
  obtain ⟨hreceived, hposition⟩ := Feed.receive_of_position hp
  obtain ⟨hnext, hbehind, hnewest⟩ := hunread.receiveFrom hroom
  exact ⟨hreceived.trans hnext, ⟨_, hposition, hbehind.trans hpublished.symm⟩, hkept ▸ hnewest⟩

/-- From a position that is behind by more, a loss is found, and then as many messages are to be read
    as are kept. -/
theorem Feed.UnreadFrom.receiveFrom_lagged {f : Feed α} {position : Nat} {unread : List α}
    (h : f.UnreadFrom position unread) (hroom : f.capacity < unread.length) :
    (f.receiveFrom position).1 = .lagged (unread.length - f.capacity) ∧
      f.UnreadFrom (f.receiveFrom position).2 (unread.drop (unread.length - f.capacity)) := by
  obtain ⟨hbehind, sent, hkept, hunread⟩ := h
  have houtstanding : f.published - position = unread.length := by omega
  have hlength : f.kept.length = f.capacity := by rw [f.kept_length]; omega
  rw [Feed.receiveFrom]
  simp only [houtstanding, hlength, gt_iff_lt, hroom, if_true]
  refine ⟨trivial, ?_, sent, hkept, (List.drop_suffix _ _).trans hunread⟩
  rw [List.length_drop]
  omega

/-- A subscriber that is behind by more is told that it has lost messages. -/
theorem Feed.HasUnread.receive_lagged {f : Feed α} {name : String} {unread : List α}
    (h : f.HasUnread name unread) (hroom : f.capacity < unread.length) :
    (f.receive name).1 = .lagged (unread.length - f.capacity) := by
  obtain ⟨p, hp, hunread⟩ := Feed.hasUnread_iff.1 h
  exact (Feed.receive_of_position hp).1.trans (hunread.receiveFrom_lagged hroom).1

end JobMonitor
