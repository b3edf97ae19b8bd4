import JobMonitor.Proofs.Registry.Run
import Mathlib.Order.Bounds.Basic

set_option autoImplicit false

open private Nat.nextPowerOfTwo.go from Init.Data.Nat.Power2.Basic

/-! # Subscribers that fall behind

A feed keeps a power of two of messages. A subscriber that has more than these to read is told how
many it has lost and goes on with the oldest that is kept, so what it has been told, messages and
losses together, always describes the beginning of what has been published since it subscribed
(`Describes`). Nothing of this depends on the other subscribers: they may come, leave, read or
never read, and the run looks to this one as if it were alone (`RegistryRun.SameFor`). Both hold
of every run (`lag_accounted`). -/

namespace JobMonitor

/-! ## How much a feed keeps -/

/-- Doubling stops at the first power of two that is large enough. -/
theorem nextPowerOfTwo_go_isLeast {n p : Nat} (hp : p > 0)
    (hreach : ∀ q, n ≤ q → q.isPowerOfTwo → p ≤ q) (hpow : p.isPowerOfTwo) :
    IsLeast {q | n ≤ q ∧ q.isPowerOfTwo} (Nat.nextPowerOfTwo.go n p hp) := by
  induction hd : n - p using Nat.strong_induction_on generalizing p with
  | _ d ih =>
    rw [Nat.nextPowerOfTwo.go]
    split
    · next hlt =>
      refine ih (n - p * 2) (by omega) _ ?_ (Nat.isPowerOfTwo_mul_two_of_isPowerOfTwo hpow) rfl
      intro q hq hqpow
      obtain ⟨k, rfl⟩ := hpow
      obtain ⟨m, rfl⟩ := hqpow
      have hkm : k < m := (Nat.pow_lt_pow_iff_right (by decide)).1 (Nat.lt_of_lt_of_le hlt hq)
      rw [← Nat.pow_succ]
      exact Nat.pow_le_pow_right (by decide) hkm
    · next hge => exact ⟨⟨Nat.le_of_not_lt hge, hpow⟩, fun q hq => hreach q hq.1 hq.2⟩

theorem feedCapacity_isLeast (wanted : Nat) :
    IsLeast {c | max 1 wanted ≤ c ∧ c.isPowerOfTwo} (feedCapacity wanted) := by
  have hpos : ∀ c : Nat, c.isPowerOfTwo → 1 ≤ c := fun c hc => Nat.pos_of_isPowerOfTwo hc
  obtain ⟨⟨hle, hpow⟩, hleast⟩ := nextPowerOfTwo_go_isLeast (n := wanted) Nat.one_pos
    (fun c _ hc => hpos c hc) Nat.isPowerOfTwo_one
  exact ⟨⟨Nat.max_le.2 ⟨hpos _ hpow, hle⟩, hpow⟩,
    fun c hc => hleast ⟨(Nat.max_le.1 hc.1).2, hc.2⟩⟩

/-! ## The next answer -/

variable {α : Type}

/-- What a subscriber is told that has these messages to read. -/
def nextAnswer (capacity : Nat) (unread : List α) : Received α :=
  if unread.length ≤ capacity then unread.head?.elim .empty .message
  else .lagged (unread.length - capacity)

/-- What it then has to read: after a loss, as many as are kept. -/
def leftUnread (capacity : Nat) (unread : List α) : List α :=
  if unread.length ≤ capacity then unread.tail else unread.drop (unread.length - capacity)

theorem nextAnswer_eq_empty_iff {capacity : Nat} {unread : List α} :
    nextAnswer capacity unread = .empty ↔ unread = [] := by
  rw [nextAnswer]
  cases unread with
  | nil => simp
  | cons m rest => split <;> simp

theorem nextAnswer_eq_message_iff {capacity : Nat} {unread : List α} {m : α} :
    nextAnswer capacity unread = .message m ↔
      unread.length ≤ capacity ∧ unread.head? = some m := by
  rw [nextAnswer]
  split
  · next hroom => cases unread <;> simp_all
  · next hroom => exact iff_of_false (by simp) fun h => hroom h.1

theorem nextAnswer_eq_lagged_iff {capacity lost : Nat} {unread : List α} :
    nextAnswer capacity unread = .lagged lost ↔
      capacity < unread.length ∧ lost = unread.length - capacity := by
  rw [nextAnswer]
  split
  · next hroom =>
    refine iff_of_false ?_ fun h => absurd hroom (Nat.not_le.2 h.1)
    cases unread <;> simp
  · next hroom =>
    rw [Received.lagged.injEq, eq_comm]
    exact (and_iff_right (Nat.lt_of_not_le hroom)).symm

theorem Feed.HasUnread.receive_eq {f : Feed α} {name : String} {unread : List α}
    (h : f.HasUnread name unread) : (f.receive name).1 = nextAnswer f.capacity unread := by
  rw [nextAnswer]
  split
  · next hroom => exact (h.receive hroom).1
  · next hroom => exact h.receive_lagged (Nat.lt_of_not_le hroom)

/-- After a loss the subscriber stands before the oldest message that is kept. -/
theorem Feed.HasUnread.receive_lost {f : Feed α} {name : String} {unread : List α}
    (h : f.HasUnread name unread) (hroom : f.capacity < unread.length) :
    (f.receive name).2.HasUnread name (unread.drop (unread.length - f.capacity)) := by
  obtain ⟨p, hp, hunread⟩ := Feed.hasUnread_iff.1 h
  obtain ⟨-, hpublished, hkept⟩ := f.receive_unchanged name
  obtain ⟨-, hbehind, hnewest⟩ := hunread.receiveFrom_lagged hroom
  exact ⟨⟨_, (Feed.receive_of_position hp).2, hbehind.trans hpublished.symm⟩, hkept ▸ hnewest⟩

theorem Feed.HasUnread.receive_left {f : Feed α} {name : String} {unread : List α}
    (h : f.HasUnread name unread) :
    (f.receive name).2.HasUnread name (leftUnread f.capacity unread) := by
  rw [leftUnread]
  split
  · next hroom => exact (h.receive hroom).2
  · next hroom => exact h.receive_lost (Nat.lt_of_not_le hroom)

/-! ## What a subscriber has been told -/

/-- The answers, oldest first, describe the messages: each that was given stands for itself, and a
    loss for as many as were lost. -/
inductive Describes : List (Received α) → List α → Prop
  | nothing : Describes [] []
  | message {answers : List (Received α)} {covered : List α} (m : α) :
      Describes answers covered → Describes (answers ++ [.message m]) (covered ++ [m])
  | lagged {answers : List (Received α)} {covered : List α} (lost : List α) :
      Describes answers covered → Describes (answers ++ [.lagged lost.length]) (covered ++ lost)
  | empty {answers : List (Received α)} {covered : List α} :
      Describes answers covered → Describes (answers ++ [.empty]) covered

/-- The next answer covers what is no longer to be read after it. -/
theorem Describes.next {answers : List (Received α)} {covered : List α}
    (h : Describes answers covered) (capacity : Nat) (unread : List α) :
    ∃ more, unread = more ++ leftUnread capacity unread ∧
      Describes (answers ++ [nextAnswer capacity unread]) (covered ++ more) := by
  rw [nextAnswer, leftUnread]
  split
  · cases unread with
    | nil => exact ⟨[], rfl, by rw [List.append_nil]; exact h.empty⟩
    | cons m rest => exact ⟨[m], rfl, h.message m⟩
  · refine ⟨unread.take (unread.length - capacity), (List.take_append_drop _ _).symm, ?_⟩
    have hlost : (unread.take (unread.length - capacity)).length = unread.length - capacity := by
      rw [List.length_take]
      omega
    have := h.lagged (unread.take (unread.length - capacity))
    rwa [hlost] at this

/-- What a subscriber has been told, oldest first. -/
def RegistryRun.answersTo (run : RegistryRun) (name : String) : List (Received Change) :=
  (run.found.filter (·.1 = name)).map (·.2)

theorem RegistryRun.answersTo_receive (run : RegistryRun) (name : String) :
    (run.step (.receive name)).answersTo name
      = run.answersTo name ++ [(run.registry.feed.receive name).1] := by
  rw [answersTo, run.found_receive, List.filter_append, List.map_append, ← answersTo]
  simp

theorem RegistryRun.answersTo_receive_of_ne (run : RegistryRun) {name other : String}
    (h : name ≠ other) : (run.step (.receive other)).answersTo name = run.answersTo name := by
  rw [answersTo, run.found_receive, List.filter_append, List.map_append, ← answersTo]
  simp [Ne.symm h]

/-! ## A subscription -/

/-- Of what has been published the subscriber has been told the beginning, and has the rest to
    read. -/
def RegistryRun.ToldBefore (run : RegistryRun) (name : String) (unread : List Change) : Prop :=
  run.registry.feed.HasUnread name unread ∧
    ∃ covered, run.log = covered ++ unread ∧ Describes (run.answersTo name) covered

theorem RegistryRun.ToldBefore.step {run : RegistryRun} {name : String} {unread : List Change}
    (h : run.ToldBefore name unread) {s : RegistryStep} (hs : s.Keeps name) :
    ∃ unread, (run.step s).ToldBefore name unread := by
  obtain ⟨hunread, covered, hlog, hdescribes⟩ := h
  cases s with
  | operate op =>
    refine ⟨unread ++ (run.registry.perform op).2, ?_, covered, ?_, hdescribes⟩
    · show (run.registry.perform op).1.feed.HasUnread name _
      rw [Registry.feed_perform]
      exact hunread.publishAll _
    · show run.log ++ (run.registry.perform op).2 = _
      rw [hlog, List.append_assoc]
  | subscribe other => exact ⟨unread, hunread.subscribe_of_ne hs, covered, hlog, hdescribes⟩
  | unsubscribe other => exact ⟨unread, hunread.unsubscribe_of_ne hs, covered, hlog, hdescribes⟩
  | receive other =>
    by_cases hother : name = other
    · subst hother
      obtain ⟨more, hmore, hnext⟩ := hdescribes.next run.registry.feed.capacity unread
      refine ⟨_, hunread.receive_left, covered ++ more, ?_, ?_⟩
      · rw [List.append_assoc, ← hmore]
        exact hlog
      · rw [run.answersTo_receive, hunread.receive_eq]
        exact hnext
    · refine ⟨unread, hunread.receive_of_ne hother, covered, hlog, ?_⟩
      rw [run.answersTo_receive_of_ne hother]
      exact hdescribes

theorem RegistryRun.ToldBefore.steps {run : RegistryRun} {name : String} {unread : List Change}
    (h : run.ToldBefore name unread) {steps : List RegistryStep}
    (hs : ∀ s ∈ steps, s.Keeps name) : ∃ unread, (run.steps steps).ToldBefore name unread := by
  induction steps generalizing run unread with
  | nil => exact ⟨unread, h⟩
  | cons s rest ih =>
    obtain ⟨unread, hnext⟩ := h.step (hs s List.mem_cons_self)
    exact ih hnext fun s hs' => hs s (List.mem_cons_of_mem _ hs')

/-- What a subscriber can rely on in a run that began when it subscribed. It has been told the
    beginning of what has been published, and how much is outstanding decides what it is told
    next. -/
def RegistryRun.AccountsTo (run : RegistryRun) (name : String) (capacity : Nat) : Prop :=
  ∃ covered outstanding, run.log = covered ++ outstanding ∧
    Describes (run.answersTo name) covered ∧
    ((run.registry.receive name).1 = .empty ↔ outstanding = []) ∧
    (∀ c, (run.registry.receive name).1 = .message c ↔
      outstanding.length ≤ capacity ∧ outstanding.head? = some c) ∧
    ∀ lost, (run.registry.receive name).1 = .lagged lost ↔
      capacity < outstanding.length ∧ lost = outstanding.length - capacity

theorem RegistryRun.ToldBefore.accountsTo {run : RegistryRun} {name : String}
    {unread : List Change} (h : run.ToldBefore name unread) :
    run.AccountsTo name run.registry.feed.capacity := by
  obtain ⟨hunread, covered, hlog, hdescribes⟩ := h
  have hnext : (run.registry.receive name).1 = nextAnswer run.registry.feed.capacity unread :=
    hunread.receive_eq
  refine ⟨covered, unread, hlog, hdescribes, ?_, fun c => ?_, fun lost => ?_⟩
  · rw [hnext, nextAnswer_eq_empty_iff]
  · rw [hnext, nextAnswer_eq_message_iff]
  · rw [hnext, nextAnswer_eq_lagged_iff]

/-! ## Other subscribers -/

theorem Feed.publishAll_of_nobody {f : Feed α} (h : f.subscribers = []) (messages : List α) :
    f.publishAll messages = f := by
  induction messages with
  | nil => rfl
  | cons m rest ih =>
    have : f.publish m = f := by rw [publish, h, List.isEmpty_nil, if_pos rfl]
    rw [publishAll, List.foldl_cons, this]
    exact ih

/-- Two feeds are alike to a subscriber: it has the same to read from both, or it is subscribed to
    neither. -/
def Feed.AlikeFor (f g : Feed α) (name : String) : Prop :=
  f.capacity = g.capacity ∧
    ((∃ unread, f.HasUnread name unread ∧ g.HasUnread name unread) ∨
      f.position? name = none ∧ g.position? name = none)

namespace Feed.AlikeFor

variable {f g f' : Feed α} {name other : String}

theorem refl_of_nobody (h : f.subscribers = []) : f.AlikeFor f name :=
  have hnone : f.position? name = none := by rw [position?, h, List.lookup_nil]
  ⟨rfl, .inr ⟨hnone, hnone⟩⟩

/-- What leaves the subscriber's messages alone leaves the feed alike. -/
theorem of_left (h : f.AlikeFor g name) (hcapacity : f'.capacity = f.capacity)
    (hunread : ∀ unread, f.HasUnread name unread → f'.HasUnread name unread)
    (hposition : f.position? name = none → f'.position? name = none) : f'.AlikeFor g name := by
  obtain ⟨hsame, ⟨unread, hf, hg⟩ | ⟨hf, hg⟩⟩ := h
  · exact ⟨hcapacity.trans hsame, .inl ⟨unread, hunread unread hf, hg⟩⟩
  · exact ⟨hcapacity.trans hsame, .inr ⟨hposition hf, hg⟩⟩

theorem subscribe_of_ne (h : f.AlikeFor g name) (hne : name ≠ other) :
    (f.subscribe other).AlikeFor g name := by
  refine h.of_left rfl (fun _ hf => hf.subscribe_of_ne hne) fun hf => ?_
  have : (name == other) = false := by simpa using hne
  rw [position?, Feed.subscribe, List.lookup_cons, this]
  exact (lookup_filter_of_ne hne f.subscribers).trans hf

theorem unsubscribe_of_ne (h : f.AlikeFor g name) (hne : name ≠ other) :
    (f.unsubscribe other).AlikeFor g name :=
  h.of_left rfl (fun _ hf => hf.unsubscribe_of_ne hne)
    fun hf => (lookup_filter_of_ne hne f.subscribers).trans hf

theorem receive_of_ne (h : f.AlikeFor g name) (hne : name ≠ other) :
    (f.receive other).2.AlikeFor g name := by
  refine h.of_left (f.receive_unchanged other).1 (fun _ hf => hf.receive_of_ne hne) fun hf => ?_
  rw [Feed.receive]
  split
  · exact hf
  · exact ((lookup_map_position ..).trans (if_neg hne)).trans hf

theorem subscribe (h : f.AlikeFor g name) :
    (f.subscribe name).AlikeFor (g.subscribe name) name :=
  ⟨h.1, .inl ⟨[], f.hasUnread_subscribe name, g.hasUnread_subscribe name⟩⟩

theorem unsubscribe (h : f.AlikeFor g name) :
    (f.unsubscribe name).AlikeFor (g.unsubscribe name) name := by
  have hnone : ∀ f : Feed α, (f.unsubscribe name).position? name = none := by
    intro f
    refine List.lookup_eq_none_iff.2 fun s hs => ?_
    simpa using Ne.symm (of_decide_eq_true (List.mem_filter.1 hs).2)
  exact ⟨h.1, .inr ⟨hnone f, hnone g⟩⟩

theorem publishAll (h : f.AlikeFor g name) (messages : List α) :
    (f.publishAll messages).AlikeFor (g.publishAll messages) name := by
  refine ⟨by rw [f.capacity_publishAll, g.capacity_publishAll, h.1], ?_⟩
  obtain ⟨-, ⟨unread, hf, hg⟩ | ⟨hf, hg⟩⟩ := h
  · exact .inl ⟨_, hf.publishAll messages, hg.publishAll messages⟩
  · refine .inr ⟨?_, ?_⟩
    · rw [f.position?_publishAll, hf]
    · rw [g.position?_publishAll, hg]

theorem receive (h : f.AlikeFor g name) :
    (f.receive name).1 = (g.receive name).1 ∧
      (f.receive name).2.AlikeFor (g.receive name).2 name := by
  obtain ⟨hcapacity, ⟨unread, hf, hg⟩ | ⟨hf, hg⟩⟩ := h
  · refine ⟨by rw [hf.receive_eq, hg.receive_eq, hcapacity], ?_, ?_⟩
    · rw [(f.receive_unchanged name).1, (g.receive_unchanged name).1, hcapacity]
    · exact .inl ⟨_, hf.receive_left, hcapacity ▸ hg.receive_left⟩
  · rw [Feed.receive, hf, Feed.receive, hg]
    exact ⟨rfl, hcapacity, .inr ⟨hf, hg⟩⟩

end Feed.AlikeFor

/-- A step of the registry, or of this subscriber. -/
def RegistryStep.concerns (name : String) : RegistryStep → Bool
  | .operate _ => true
  | .subscribe other => name = other
  | .unsubscribe other => name = other
  | .receive other => name = other

/-- What an operation does to the table and publishes has nothing to do with the subscribers. -/
theorem Registry.perform_congr {r s : Registry} (h : r.table = s.table) (op : RegistryOp) :
    (r.perform op).1.table = (s.perform op).1.table ∧ (r.perform op).2 = (s.perform op).2 := by
  cases op <;> simp [perform, upsert, remove, removeIf, clear, commit, h]

/-- Two runs that a subscriber cannot tell from each other, and will not be able to. -/
structure RegistryRun.AlikeFor (run alone : RegistryRun) (name : String) : Prop where
  table : run.registry.table = alone.registry.table
  log : run.log = alone.log
  answers : run.answersTo name = alone.answersTo name
  feed : run.registry.feed.AlikeFor alone.registry.feed name

namespace RegistryRun.AlikeFor

variable {run alone : RegistryRun} {name : String}

/-- The run goes on with a step of somebody else. -/
theorem step_of_not_concerns (h : run.AlikeFor alone name) {s : RegistryStep}
    (hs : s.concerns name = false) : (run.step s).AlikeFor alone name := by
  cases s with
  | operate op => cases hs
  | subscribe other =>
    exact ⟨h.table, h.log, h.answers, h.feed.subscribe_of_ne (of_decide_eq_false hs)⟩
  | unsubscribe other =>
    exact ⟨h.table, h.log, h.answers, h.feed.unsubscribe_of_ne (of_decide_eq_false hs)⟩
  | receive other =>
    have hne : name ≠ other := of_decide_eq_false hs
    exact ⟨h.table, h.log, (run.answersTo_receive_of_ne hne).trans h.answers,
      h.feed.receive_of_ne hne⟩

/-- Both runs go on with the same step. -/
theorem step_of_concerns (h : run.AlikeFor alone name) {s : RegistryStep}
    (hs : s.concerns name = true) : (run.step s).AlikeFor (alone.step s) name := by
  cases s with
  | operate op =>
    obtain ⟨htable, hchanges⟩ := Registry.perform_congr h.table op
    refine ⟨htable, ?_, h.answers, ?_⟩
    · show run.log ++ (run.registry.perform op).2 = alone.log ++ (alone.registry.perform op).2
      rw [h.log, hchanges]
    · show (run.registry.perform op).1.feed.AlikeFor (alone.registry.perform op).1.feed name
      rw [Registry.feed_perform, Registry.feed_perform, hchanges]
      exact h.feed.publishAll _
  | subscribe other =>
    obtain rfl : name = other := of_decide_eq_true hs
    exact ⟨h.table, h.log, h.answers, h.feed.subscribe⟩
  | unsubscribe other =>
    obtain rfl : name = other := of_decide_eq_true hs
    exact ⟨h.table, h.log, h.answers, h.feed.unsubscribe⟩
  | receive other =>
    obtain rfl : name = other := of_decide_eq_true hs
    obtain ⟨hanswer, hfeed⟩ := h.feed.receive
    refine ⟨h.table, h.log, ?_, hfeed⟩
    rw [run.answersTo_receive, alone.answersTo_receive, h.answers, hanswer]

/-- The other subscribers' steps are left out of one run. -/
theorem steps (h : run.AlikeFor alone name) (steps : List RegistryStep) :
    (run.steps steps).AlikeFor (alone.steps (steps.filter (·.concerns name))) name := by
  induction steps generalizing run alone with
  | nil => exact h
  | cons s rest ih =>
    cases hs : s.concerns name with
    | false =>
      rw [List.filter_cons_of_neg (by simp [hs])]
      exact ih (h.step_of_not_concerns hs)
    | true =>
      rw [List.filter_cons_of_pos hs]
      exact ih (h.step_of_concerns hs)

end RegistryRun.AlikeFor

/-- The run is for the subscriber what the other would be: the registry holds and has published the
    same, and the subscriber has been told the same and is told the same next. -/
structure RegistryRun.SameFor (run alone : RegistryRun) (name : String) : Prop where
  table : run.registry.table = alone.registry.table
  log : run.log = alone.log
  answers : run.answersTo name = alone.answersTo name
  next : (run.registry.receive name).1 = (alone.registry.receive name).1

/-! ## Any run -/

/-- **Losses are accounted for.** The feed keeps the least power of two of messages that is enough.
    What is published while nobody is subscribed leaves the feed as it is. To each subscriber a run
    is what it would be without the others. And what a subscriber has been told since it subscribed
    describes the beginning of what has been published since then; it is told that there is nothing
    more if that is all, the next message if no more are outstanding than are kept, and otherwise by
    how many they are more. -/
theorem lag_accounted (capacity : Nat) (steps : List RegistryStep) :
    let run := (RegistryRun.start (.new capacity)).steps steps
    IsLeast {c | max 1 capacity ≤ c ∧ c.isPowerOfTwo} (feedCapacity capacity) ∧
      (run.registry.feed.subscribers = [] →
        ∀ op, (run.registry.perform op).1.feed = run.registry.feed) ∧
      ∀ name,
        run.SameFor ((RegistryRun.start (.new capacity)).steps (steps.filter (·.concerns name)))
          name ∧
        ∀ more : List RegistryStep, (∀ s ∈ more, s.Keeps name) →
          ((RegistryRun.start (run.registry.subscribe name)).steps more).AccountsTo name
            (feedCapacity capacity) := by
  intro run
  refine ⟨feedCapacity_isLeast capacity, fun hnobody op => ?_, fun name => ⟨?_, ?_⟩⟩
  · rw [Registry.feed_perform]
    exact Feed.publishAll_of_nobody hnobody _
  · have hstart : (RegistryRun.start (.new capacity)).AlikeFor (.start (.new capacity)) name :=
      ⟨rfl, rfl, rfl, .refl_of_nobody rfl⟩
    have halike := hstart.steps steps
    exact ⟨halike.table, halike.log, halike.answers, halike.feed.receive.1⟩
  · intro more hmore
    have hjoined : (RegistryRun.start (run.registry.subscribe name)).ToldBefore name [] :=
      ⟨run.registry.feed.hasUnread_subscribe name, [], rfl, .nothing⟩
    obtain ⟨unread, hlater⟩ := hjoined.steps hmore
    -- No step changes the capacity, so it is still the one of the feed that the run began with.
    have hcapacity := (RegistryRun.capacity_steps (.start (run.registry.subscribe name)) more).trans
      (RegistryRun.capacity_steps (.start (.new capacity)) steps)
    have := hlater.accountsTo
    rwa [hcapacity] at this

/-- With room for three, four are kept; the fifth message is one too many for a subscriber that has
    read nothing. -/
theorem lag_accounted_full :
    let job (id : JobId) : RegistryStep := .operate (.upsert { (default : Entry) with jobId := id })
    let four := [job 1, job 2, job 3, job 4]
    let run := (RegistryRun.start (.new 3)).steps [.subscribe "reader", job 9, .unsubscribe "reader"]
    let later (more : List RegistryStep) :=
      (RegistryRun.start (run.registry.subscribe "watcher")).steps more
    (later four).AccountsTo "watcher" 4 ∧ (later (four ++ [job 5])).AccountsTo "watcher" 4 ∧
      ((later four).registry.receive "watcher").1
        = .message ⟨.added, { (default : Entry) with jobId := 1 }⟩ ∧
      ((later (four ++ [job 5])).registry.receive "watcher").1 = .lagged 1 := by
  intro job four run later
  have hcapacity : feedCapacity 3 = 4 := by decide +kernel
  obtain ⟨-, -, hwatcher⟩ := lag_accounted 3 [.subscribe "reader", job 9, .unsubscribe "reader"]
  rw [hcapacity] at hwatcher
  refine ⟨(hwatcher "watcher").2 four ?_, (hwatcher "watcher").2 (four ++ [job 5]) ?_, ?_, ?_⟩
  · simp [four, job, RegistryStep.Keeps]
  · simp [four, job, RegistryStep.Keeps]
  · decide +kernel
  · decide +kernel

end JobMonitor
