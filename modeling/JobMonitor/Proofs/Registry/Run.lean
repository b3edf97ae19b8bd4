import JobMonitor.Proofs.Registry.Replay
import JobMonitor.Proofs.Registry.Subscriber

set_option autoImplicit false

/-! # Runs of the registry

A run is any sequence of operations on the registry, with subscribers that come, ask for messages
and leave in between. Whatever the run, the changes that it has published replay to what the table
holds, and what a subscriber has received is what has been published since it subscribed, as
long as it has lost nothing. -/

namespace JobMonitor

/-! ## One operation -/

/-- An operation on the registry. -/
inductive RegistryOp where
  | upsert (e : Entry)
  | remove (id : JobId)
  | removeIf (id : JobId) (condition : Entry → Bool)
  | clear

/-- Does an operation. Gives the registry after it and the changes that have been published. -/
def Registry.perform (r : Registry) (op : RegistryOp) : Registry × List Change :=
  match op with
  | .upsert e => let c := r.upsert e; (c.registry, c.changes)
  | .remove id => let c := r.remove id; (c.registry, c.changes)
  | .removeIf id condition => let c := r.removeIf id condition; (c.registry, c.changes)
  | .clear => let c := r.clear; (c.registry, c.changes)

/-- The feed hands out what the operation says it has changed. -/
theorem Registry.feed_perform (r : Registry) (op : RegistryOp) :
    (r.perform op).1.feed = r.feed.publishAll (r.perform op).2 := by
  cases op <;> rfl

theorem Registry.perform_replays (r : Registry) (op : RegistryOp) :
    LogFits r.table.get? (r.perform op).2 ∧
      replay r.table.get? (r.perform op).2 = (r.perform op).1.table.get? := by
  cases op with
  | upsert e => exact r.table.upsert_replays e
  | remove id => exact r.table.removeIf_replays id _
  | removeIf id condition => exact r.table.removeIf_replays id condition
  | clear => exact r.table.clear_replays

/-- Operations other than putting an entry in publish removals only. -/
theorem Registry.kind_of_mem_perform {r : Registry} {op : RegistryOp} (hop : ∀ e, op ≠ .upsert e)
    {c : Change} (hc : c ∈ (r.perform op).2) : c.kind = .removed := by
  have hremoveIf : ∀ id condition, c ∈ (r.table.removeIf id condition).changes →
      c.kind = .removed := by
    intro id condition h
    rw [Table.removeIf] at h
    split at h
    · rw [List.mem_singleton.1 h]
    · exact absurd h List.not_mem_nil
  cases op with
  | upsert e => exact absurd rfl (hop e)
  | remove id => exact hremoveIf id _ hc
  | removeIf id condition => exact hremoveIf id condition hc
  | clear =>
    obtain ⟨e, -, rfl⟩ := List.mem_map.1 hc
    rfl

/-- Removals leave no entry that was not there. -/
theorem replay_removed_eq_none {contents : Contents} {log : List Change} {id : JobId}
    (hlog : ∀ c ∈ log, c.kind = .removed) (hid : contents id = none) :
    replay contents log id = none := by
  induction log generalizing contents with
  | nil => exact hid
  | cons c rest ih =>
    rw [replay_cons]
    refine ih (fun c hc => hlog c (List.mem_cons_of_mem _ hc)) ?_
    rw [Change.applyTo_removed (hlog c List.mem_cons_self), Function.update_apply, hid, ite_self]

/-- Operations other than putting an entry in publish something exactly if they change the table. -/
theorem Registry.perform_silent_iff (r : Registry) {op : RegistryOp} (hop : ∀ e, op ≠ .upsert e) :
    (r.perform op).2 = [] ↔ (r.perform op).1.table.get? = r.table.get? := by
  obtain ⟨hfits, hreplay⟩ := r.perform_replays op
  have hkind := fun c => Registry.kind_of_mem_perform (c := c) (r := r) hop
  rw [← hreplay]
  cases hchanges : (r.perform op).2 with
  | nil => exact iff_of_true rfl rfl
  | cons c rest =>
    rw [hchanges] at hfits hkind
    have hc : r.table.get? c.entry.jobId = some c.entry := by
      have := hfits.1
      rwa [Change.Fits, hkind c List.mem_cons_self] at this
    refine iff_of_false (List.cons_ne_nil c rest) fun hsame => ?_
    -- The first entry that was removed was there, and no later removal brings it back.
    have hrest : ∀ c ∈ rest, c.kind = .removed :=
      fun c hc => hkind c (List.mem_cons_of_mem _ hc)
    have hgone : replay r.table.get? (c :: rest) c.entry.jobId = none := by
      rw [replay_cons]
      refine replay_removed_eq_none hrest ?_
      rw [Change.applyTo_removed (hkind c List.mem_cons_self), Function.update_self]
    rw [hsame, hc] at hgone
    exact absurd hgone (Option.some_ne_none _)

/-- What the operations on a registry publish: putting an entry in, one change; a removal, one
    change if there was something to remove; clearing, the removal of each entry in the order of
    the job ids; and an operation that leaves the table as it is, nothing. -/
structure Registry.PublishesOnce (r : Registry) : Prop where
  upsert : ∀ e, ∃ kind, (r.upsert e).changes = [⟨kind, e⟩]
  remove : ∀ id, (r.remove id).result = r.table.get? id ∧
    (r.remove id).changes = (r.remove id).result.toList.map (⟨.removed, ·⟩)
  removeIf : ∀ id condition,
    (r.removeIf id condition).result = (r.table.get? id).filter condition ∧
      (r.removeIf id condition).changes = (r.removeIf id condition).result.toList.map (⟨.removed, ·⟩)
  clear : r.clear.changes.Pairwise (fun a b => a.entry.jobId < b.entry.jobId) ∧
    ∀ c, c ∈ r.clear.changes ↔ c.kind = .removed ∧ r.table.get? c.entry.jobId = some c.entry
  silent : ∀ op, (∀ e, op ≠ .upsert e) →
    ((r.perform op).2 = [] ↔ (r.perform op).1.table.get? = r.table.get?)

theorem Table.removeIf_publishes (t : Table) (id : JobId) (condition : Entry → Bool) :
    (t.removeIf id condition).result = (t.get? id).filter condition ∧
      (t.removeIf id condition).changes
        = (t.removeIf id condition).result.toList.map (⟨.removed, ·⟩) := by
  rw [Table.removeIf]
  cases (t.get? id).filter condition with
  | none => exact ⟨rfl, rfl⟩
  | some e => exact ⟨rfl, rfl⟩

theorem Registry.publishesOnce (r : Registry) : r.PublishesOnce where
  upsert e := ⟨_, rfl⟩
  remove id := by
    obtain ⟨hresult, hchanges⟩ := r.table.removeIf_publishes id fun _ => true
    refine ⟨hresult.trans ?_, hchanges⟩
    cases r.table.get? id <;> rfl
  removeIf id condition := r.table.removeIf_publishes id condition
  clear := by
    refine ⟨List.pairwise_map.2 r.table.ordered, fun c => ?_⟩
    rw [Table.get?_eq_some_iff]
    constructor
    · intro hc
      obtain ⟨e, he, rfl⟩ := List.mem_map.1 hc
      exact ⟨rfl, he⟩
    · rintro ⟨hkind, hc⟩
      refine List.mem_map.2 ⟨c.entry, hc, ?_⟩
      rw [← hkind]
  silent _ hop := r.perform_silent_iff hop

/-! ## Runs -/

/-- A step of a run: an operation, or somebody who subscribes, leaves or asks for a message. -/
inductive RegistryStep where
  | operate (op : RegistryOp)
  | subscribe (name : String)
  | unsubscribe (name : String)
  | receive (name : String)

/-- The step does not end the subscription under the name. -/
def RegistryStep.Keeps (name : String) : RegistryStep → Prop
  | .operate _ => True
  | .subscribe other => name ≠ other
  | .unsubscribe other => name ≠ other
  | .receive _ => True

/-- How far a run has got. -/
structure RegistryRun where
  registry : Registry
  /-- What has been published, oldest first. -/
  log : List Change
  /-- What the subscribers have found when they asked, oldest first. -/
  found : List (String × Received Change)

/-- A run that begins. -/
def RegistryRun.start (r : Registry) : RegistryRun := ⟨r, [], []⟩

/-- The run after one more step. -/
def RegistryRun.step (run : RegistryRun) : RegistryStep → RegistryRun
  | .operate op =>
    let (registry, changes) := run.registry.perform op
    { run with registry, log := run.log ++ changes }
  | .subscribe name => { run with registry := run.registry.subscribe name }
  | .unsubscribe name => { run with registry := run.registry.unsubscribe name }
  | .receive name =>
    let (received, registry) := run.registry.receive name
    { run with registry, found := run.found ++ [(name, received)] }

/-- The run after more steps. -/
def RegistryRun.steps (run : RegistryRun) (steps : List RegistryStep) : RegistryRun :=
  steps.foldl RegistryRun.step run

/-- The changes that a subscriber has received, oldest first. -/
def RegistryRun.receivedBy (run : RegistryRun) (name : String) : List Change :=
  run.found.filterMap fun
    | (n, .message c) => if n = name then some c else none
    | _ => none

/-- The subscriber has not been told that it has lost messages. -/
def RegistryRun.NeverLagged (run : RegistryRun) (name : String) : Prop :=
  ∀ lost, (name, .lagged lost) ∉ run.found

/-! ## What a run keeps -/

/-- The changes that the run has published lead from some contents to those of its table, and each
    of them says what was so at its point. -/
structure RegistryRun.ReplaysFrom (run : RegistryRun) (contents : Contents) : Prop where
  fits : LogFits contents run.log
  replay : replay contents run.log = run.registry.table.get?

theorem RegistryRun.ReplaysFrom.step {run : RegistryRun} {contents : Contents}
    (h : run.ReplaysFrom contents) (s : RegistryStep) : (run.step s).ReplaysFrom contents := by
  cases s with
  | operate op =>
    obtain ⟨hfits, hreplay⟩ := run.registry.perform_replays op
    rw [← h.replay] at hfits hreplay
    refine ⟨logFits_append.2 ⟨h.fits, hfits⟩, ?_⟩
    exact (replay_append contents run.log _).trans hreplay
  | subscribe name => exact ⟨h.fits, h.replay⟩
  | unsubscribe name => exact ⟨h.fits, h.replay⟩
  | receive name => exact ⟨h.fits, h.replay⟩

theorem RegistryRun.ReplaysFrom.steps {run : RegistryRun} {contents : Contents}
    (h : run.ReplaysFrom contents) (steps : List RegistryStep) :
    (run.steps steps).ReplaysFrom contents := by
  induction steps generalizing run with
  | nil => exact h
  | cons s rest ih => exact ih (h.step s)

theorem RegistryRun.replaysFrom_start (r : Registry) :
    (RegistryRun.start r).ReplaysFrom r.table.get? :=
  ⟨trivial, rfl⟩

theorem RegistryRun.capacity_step (run : RegistryRun) (s : RegistryStep) :
    (run.step s).registry.feed.capacity = run.registry.feed.capacity := by
  cases s with
  | operate op =>
    show (run.registry.perform op).1.feed.capacity = _
    rw [Registry.feed_perform, Feed.capacity_publishAll]
  | subscribe name => rfl
  | unsubscribe name => rfl
  | receive name => exact (run.registry.feed.receive_unchanged name).1

theorem RegistryRun.capacity_steps (run : RegistryRun) (steps : List RegistryStep) :
    (run.steps steps).registry.feed.capacity = run.registry.feed.capacity := by
  induction steps generalizing run with
  | nil => rfl
  | cons s rest ih => exact (ih (run.step s)).trans (run.capacity_step s)

theorem RegistryRun.found_receive (run : RegistryRun) (name : String) :
    (run.step (.receive name)).found
      = run.found ++ [(name, (run.registry.feed.receive name).1)] := rfl

theorem RegistryRun.found_prefix_steps (run : RegistryRun) (steps : List RegistryStep) :
    run.found <+: (run.steps steps).found := by
  induction steps generalizing run with
  | nil => exact List.prefix_rfl
  | cons s rest ih =>
    have hstep : run.found <+: (run.step s).found := by
      cases s with
      | operate op => exact List.prefix_rfl
      | subscribe name => exact List.prefix_rfl
      | unsubscribe name => exact List.prefix_rfl
      | receive name =>
        rw [run.found_receive]
        exact List.prefix_append ..
    exact hstep.trans (ih (run.step s))

/-- Of what has been published the subscriber has received the beginning, and has the rest to
    read. -/
def RegistryRun.FollowedBy (run : RegistryRun) (name : String) (unread : List Change) : Prop :=
  run.log = run.receivedBy name ++ unread ∧ run.registry.feed.HasUnread name unread

theorem RegistryRun.receivedBy_receive_of_ne (run : RegistryRun) {name other : String}
    (h : name ≠ other) : (run.step (.receive other)).receivedBy name = run.receivedBy name := by
  rw [receivedBy, run.found_receive, List.filterMap_append]
  cases (run.registry.feed.receive other).1 <;> simp [receivedBy, Ne.symm h]

theorem RegistryRun.FollowedBy.step {run : RegistryRun} {name : String} {unread : List Change}
    (h : run.FollowedBy name unread) {s : RegistryStep} (hs : s.Keeps name)
    (hlagged : (run.step s).NeverLagged name) :
    ∃ unread, (run.step s).FollowedBy name unread := by
  obtain ⟨hlog, hunread⟩ := h
  cases s with
  | operate op =>
    refine ⟨unread ++ (run.registry.perform op).2, ?_, ?_⟩
    · show run.log ++ (run.registry.perform op).2 = run.receivedBy name ++ _
      rw [hlog, List.append_assoc]
    · show (run.registry.perform op).1.feed.HasUnread name _
      rw [Registry.feed_perform]
      exact hunread.publishAll _
  | subscribe other => exact ⟨unread, hlog, hunread.subscribe_of_ne hs⟩
  | unsubscribe other => exact ⟨unread, hlog, hunread.unsubscribe_of_ne hs⟩
  | receive other =>
    by_cases hother : name = other
    · subst hother
      -- With more to read than is kept, the subscriber would have been told of a loss now.
      have hroom : unread.length ≤ run.registry.feed.capacity := by
        by_contra hmore
        refine hlagged (unread.length - run.registry.feed.capacity) ?_
        rw [run.found_receive, hunread.receive_lagged (Nat.lt_of_not_le hmore)]
        exact List.mem_append_right run.found List.mem_cons_self
      obtain ⟨hfound, hrest⟩ := hunread.receive hroom
      refine ⟨unread.tail, ?_, hrest⟩
      have hreceived : (run.step (.receive name)).receivedBy name
          = run.receivedBy name ++ unread.head?.toList := by
        rw [receivedBy, run.found_receive, hfound, List.filterMap_append, ← receivedBy]
        cases unread with
        | nil => rfl
        | cons c rest => simp
      rw [hreceived, List.append_assoc]
      cases unread with
      | nil => exact hlog
      | cons c rest => exact hlog
    · refine ⟨unread, ?_, hunread.receive_of_ne hother⟩
      rw [run.receivedBy_receive_of_ne hother]
      exact hlog

theorem RegistryRun.FollowedBy.steps {run : RegistryRun} {name : String} {unread : List Change}
    (h : run.FollowedBy name unread) {steps : List RegistryStep} (hs : ∀ s ∈ steps, s.Keeps name)
    (hlagged : (run.steps steps).NeverLagged name) :
    ∃ unread, (run.steps steps).FollowedBy name unread := by
  induction steps generalizing run unread with
  | nil => exact ⟨unread, h⟩
  | cons s rest ih =>
    -- What has been found stays found, so a loss at this step would be known at the end.
    have hstep : (run.step s).NeverLagged name := fun lost hlost =>
      hlagged lost (((run.step s).found_prefix_steps rest).subset hlost)
    obtain ⟨unread, hnext⟩ := h.step (hs s List.mem_cons_self) hstep
    exact ih hnext (fun s hs' => hs s (List.mem_cons_of_mem _ hs')) hlagged

/-! ## Any run -/

/-- What a subscriber under the name can rely on if the table held `joined` when it subscribed. What
    has been published since then leads from there to what the table holds. The subscriber has
    received the beginning of it, and finds the next message of the rest when it asks, unless there
    are more than the feed has room for. If it finds nothing, it has followed to what the table
    holds. -/
structure RegistryRun.Serves (run : RegistryRun) (name : String) (joined : Contents) : Prop where
  published : run.ReplaysFrom joined
  received : LogFits joined (run.receivedBy name)
  next : ∃ unread, run.log = run.receivedBy name ++ unread ∧
    (run.registry.receive name).1
      = if unread.length ≤ run.registry.feed.capacity then unread.head?.elim .empty .message
        else .lagged (unread.length - run.registry.feed.capacity)
  caughtUp : (run.registry.receive name).1 = .empty →
    JobMonitor.replay joined (run.receivedBy name) = run.registry.table.get?

theorem RegistryRun.serves_of_followedBy {run : RegistryRun} {name : String} {joined : Contents}
    {unread : List Change} (hrun : run.ReplaysFrom joined) (h : run.FollowedBy name unread) :
    run.Serves name joined := by
  obtain ⟨hlog, hunread⟩ := h
  have hnext : (run.registry.receive name).1
      = if unread.length ≤ run.registry.feed.capacity then unread.head?.elim .empty .message
        else .lagged (unread.length - run.registry.feed.capacity) := by
    split
    · next hroom => exact (hunread.receive hroom).1
    · next hroom => exact hunread.receive_lagged (Nat.lt_of_not_le hroom)
  refine ⟨hrun, ?_, ⟨unread, hlog, hnext⟩, fun hempty => ?_⟩
  · have := hrun.fits
    rw [hlog] at this
    exact (logFits_append.1 this).1
  · rw [hempty] at hnext
    have hnil : unread = [] := by
      cases unread with
      | nil => rfl
      | cons c rest =>
        split at hnext <;> simp at hnext
    rw [← hrun.replay, hlog, hnil, List.append_nil]

/-- **Whatever the run, its log replays.** The changes that have been published lead from the empty
    table to what the table holds, each of them says what was so at its point, and every operation
    publishes what it does and nothing else. Whoever subscribes at some point, keeps its
    subscription and never loses a message follows in the same way from what the table held when it
    subscribed. -/
theorem registry_log_replays (capacity : Nat) (steps : List RegistryStep) :
    let run := (RegistryRun.start (.new capacity)).steps steps
    run.ReplaysFrom Contents.empty ∧ run.registry.PublishesOnce ∧
      ∀ (name : String) (more : List RegistryStep), (∀ s ∈ more, s.Keeps name) →
        let later := (RegistryRun.start (run.registry.subscribe name)).steps more
        later.NeverLagged name →
          later.Serves name run.registry.table.get? ∧
            later.registry.feed.capacity = feedCapacity capacity := by
  intro run
  refine ⟨(RegistryRun.replaysFrom_start _).steps steps, run.registry.publishesOnce, ?_⟩
  intro name more hmore later hlagged
  have hjoined : (RegistryRun.start (run.registry.subscribe name)).FollowedBy name [] :=
    ⟨rfl, run.registry.feed.hasUnread_subscribe name⟩
  obtain ⟨unread, hlater⟩ := hjoined.steps hmore hlagged
  refine ⟨RegistryRun.serves_of_followedBy ?_ hlater, ?_⟩
  · exact (RegistryRun.replaysFrom_start _).steps more
  · exact (RegistryRun.capacity_steps _ more).trans (RegistryRun.capacity_steps _ steps)

theorem registry_log_replays_watched :
    let first : Entry := { (default : Entry) with jobId := 1 }
    let second : Entry := { (default : Entry) with jobId := 2 }
    let run := (RegistryRun.start (.new 2)).steps [.operate (.upsert first)]
    let later := (RegistryRun.start (run.registry.subscribe "watcher")).steps
      [.operate (.upsert first), .operate (.upsert second), .receive "watcher",
        .operate (.remove 1), .receive "watcher", .receive "watcher"]
    later.NeverLagged "watcher" ∧ later.Serves "watcher" run.registry.table.get? ∧
      later.receivedBy "watcher" = [⟨.updated, first⟩, ⟨.added, second⟩, ⟨.removed, first⟩] := by
  intro first second run later
  have hfound : later.found = [("watcher", .message ⟨.updated, first⟩),
      ("watcher", .message ⟨.added, second⟩), ("watcher", .message ⟨.removed, first⟩)] := by
    decide +kernel
  have hlagged : later.NeverLagged "watcher" := by
    intro lost
    simp [hfound]
  refine ⟨hlagged, ?_, by rw [RegistryRun.receivedBy, hfound]; rfl⟩
  refine ((registry_log_replays 2 [.operate (.upsert first)]).2.2 "watcher" _ ?_ hlagged).1
  simp [RegistryStep.Keeps]

end JobMonitor
