import JobMonitor.Proofs.Registry.Run
import JobMonitor.Registry.Sweep

set_option autoImplicit false

/-! # Operations one after another, and sweeps

An operation brings no entry into the table but the one that it puts in, and publishes no entry that
it has not found or put in. A sweep is nothing but removals, whatever it finds out about the
processes, and what it gives are the entries whose removal it has published. -/

namespace JobMonitor

/-! ## Where entries come from -/

theorem Table.mem_of_mem_upsert {t : Table} {e x : Entry} (h : x ∈ (t.upsert e).table.entries) :
    x = e ∨ x ∈ t.entries :=
  mem_of_mem_placeEntry h

theorem Table.mem_of_mem_removeIf {t : Table} {id : JobId} {condition : Entry → Bool} {x : Entry}
    (h : x ∈ (t.removeIf id condition).table.entries) : x ∈ t.entries := by
  rw [Table.removeIf] at h
  split at h
  · exact (List.mem_filter.1 h).1
  · exact h

theorem Table.mem_of_removeIf_changes {t : Table} {id : JobId} {condition : Entry → Bool} {c : Change}
    (h : c ∈ (t.removeIf id condition).changes) : c.entry ∈ t.entries := by
  obtain ⟨hresult, hchanges⟩ := t.removeIf_publishes id condition
  rw [hchanges, hresult] at h
  obtain ⟨e, he, rfl⟩ := List.mem_map.1 h
  exact Table.mem_of_get? (Option.filter_eq_some_iff.1 (Option.mem_toList.1 he)).1

/-- An entry of the table was there before, unless the operation has put it in. -/
theorem Registry.mem_of_mem_perform {r : Registry} {op : RegistryOp} {x : Entry}
    (h : x ∈ (r.perform op).1.table.entries) : op = .upsert x ∨ x ∈ r.table.entries := by
  cases op with
  | upsert e =>
    rcases Table.mem_of_mem_upsert h with rfl | h
    · exact .inl rfl
    · exact .inr h
  | remove id => exact .inr (Table.mem_of_mem_removeIf h)
  | removeIf id condition => exact .inr (Table.mem_of_mem_removeIf h)
  | clear => exact absurd h List.not_mem_nil

/-- An entry that is published was in the table, unless the operation has put it in. -/
theorem Registry.mem_of_perform_changes {r : Registry} {op : RegistryOp} {c : Change}
    (h : c ∈ (r.perform op).2) : op = .upsert c.entry ∨ c.entry ∈ r.table.entries := by
  cases op with
  | upsert e =>
    obtain rfl := List.mem_singleton.1 h
    exact .inl rfl
  | remove id => exact .inr (Table.mem_of_removeIf_changes h)
  | removeIf id condition => exact .inr (Table.mem_of_removeIf_changes h)
  | clear =>
    obtain ⟨e, he, rfl⟩ := List.mem_map.1 h
    exact .inr he

/-! ## Operations one after another -/

/-- Does operations one after another. Gives the registry after them and all that they have
    published. -/
def Registry.performAll (r : Registry) : List RegistryOp → Registry × List Change
  | [] => (r, [])
  | op :: rest =>
    let (r, changes) := r.perform op
    let (r, more) := r.performAll rest
    (r, changes ++ more)

theorem Registry.performAll_cons (r : Registry) (op : RegistryOp) (rest : List RegistryOp) :
    r.performAll (op :: rest)
      = (((r.perform op).1.performAll rest).1,
        (r.perform op).2 ++ ((r.perform op).1.performAll rest).2) := rfl

theorem Registry.performAll_singleton (r : Registry) (op : RegistryOp) :
    r.performAll [op] = r.perform op := by
  rw [Registry.performAll_cons, Registry.performAll, List.append_nil]

theorem Registry.performAll_append (r : Registry) (ops more : List RegistryOp) :
    r.performAll (ops ++ more)
      = (((r.performAll ops).1.performAll more).1,
        (r.performAll ops).2 ++ ((r.performAll ops).1.performAll more).2) := by
  induction ops generalizing r with
  | nil => rfl
  | cons op rest ih =>
    rw [List.cons_append, Registry.performAll_cons, ih, Registry.performAll_cons, List.append_assoc]

theorem Registry.feed_performAll (r : Registry) (ops : List RegistryOp) :
    (r.performAll ops).1.feed = r.feed.publishAll (r.performAll ops).2 := by
  induction ops generalizing r with
  | nil => rfl
  | cons op rest ih =>
    rw [Registry.performAll_cons, ih, Registry.feed_perform]
    exact List.foldl_append.symm

/-- What the operations publish leads from what the table holds before them to what it holds after
    them. -/
theorem Registry.performAll_replays (r : Registry) (ops : List RegistryOp) :
    replay r.table.get? (r.performAll ops).2 = (r.performAll ops).1.table.get? := by
  induction ops generalizing r with
  | nil => rfl
  | cons op rest ih =>
    rw [Registry.performAll_cons, replay_append, (r.perform_replays op).2]
    exact ih (r.perform op).1

/-- What holds of all entries in the table and of those that are put in holds of all entries in the
    table afterwards, and of all that have been published. -/
theorem Registry.forall_performAll {P : Entry → Prop} {r : Registry} {ops : List RegistryOp}
    (hops : ∀ e, .upsert e ∈ ops → P e) (h : ∀ e ∈ r.table.entries, P e) :
    (∀ e ∈ (r.performAll ops).1.table.entries, P e) ∧
      ∀ c ∈ (r.performAll ops).2, P c.entry := by
  induction ops generalizing r with
  | nil => exact ⟨h, fun _ hc => absurd hc List.not_mem_nil⟩
  | cons op rest ih =>
    have hput : ∀ e, op = .upsert e ∨ e ∈ r.table.entries → P e := by
      rintro e (rfl | he)
      · exact hops e List.mem_cons_self
      · exact h e he
    obtain ⟨hentries, hchanges⟩ := ih (r := (r.perform op).1)
      (fun e he => hops e (List.mem_cons_of_mem _ he))
      (fun e he => hput e (Registry.mem_of_mem_perform he))
    refine ⟨hentries, fun c hc => ?_⟩
    rcases List.mem_append.1 hc with hc | hc
    · exact hput c.entry (Registry.mem_of_perform_changes hc)
    · exact hchanges c hc

/-! ## Sweeps -/

section

variable {σ : Type} (isAlive : Probe (StateM σ))

/-- The removal of a finished job is a removal on the condition that was found out. -/
theorem Registry.exists_removeFinished (r : Registry) (id : JobId) (world : σ) :
    ∃ gone : Bool, ((r.removeFinished isAlive id).run world).1 = r.removeIf id fun _ => gone := by
  rw [Registry.removeFinished]
  cases hget : r.table.get? id with
  | none =>
    -- A job that is gone is not removed, whatever the condition.
    refine ⟨true, ?_⟩
    rw [Registry.removeIf, Registry.commit, Table.removeIf, hget]
    rfl
  | some current => exact ⟨((allGone isAlive current.pids).run world).1, rfl⟩

/-- A job that has a process that is alive is passed over. -/
theorem Registry.run_sweepOver_of_alive (r : Registry) {first : Entry} (rest : List Entry)
    {world world' : σ} (hlook : (allGone isAlive first.pids).run world = (false, world')) :
    (r.sweepOver isAlive (first :: rest)).run world = (r.sweepOver isAlive rest).run world' := by
  rw [Registry.sweepOver, StateT.run_bind, hlook]
  rfl

/-- A job without one is removed if its processes are still gone then. -/
theorem Registry.run_sweepOver_of_gone (r : Registry) {first : Entry} (rest : List Entry)
    {world world' : σ} (hlook : (allGone isAlive first.pids).run world = (true, world')) :
    (r.sweepOver isAlive (first :: rest)).run world
      = let removal := (r.removeFinished isAlive first.jobId).run world'
        let swept := (removal.1.registry.sweepOver isAlive rest).run removal.2
        ((removal.1.result.toList ++ swept.1.1, swept.1.2), swept.2) := by
  rw [Registry.sweepOver, StateT.run_bind, hlook]
  rfl

/-- What the probes keep of the world, a look at processes keeps. -/
theorem allGone_keeps {P : σ → Prop} (hprobe : ∀ pid world, P world → P ((isAlive pid).run world).2)
    (pids : List Pid) {world : σ} (h : P world) : P ((allGone isAlive pids).run world).2 := by
  induction pids generalizing world with
  | nil => exact h
  | cons pid rest ih =>
    have hfirst := hprobe pid world h
    rw [allGone, StateT.run_bind]
    rcases hasked : (isAlive pid).run world with ⟨_ | _, world'⟩
    · rw [hasked] at hfirst
      exact ih hfirst
    · rw [hasked] at hfirst
      exact hfirst

theorem Registry.removeFinished_keeps {P : σ → Prop}
    (hprobe : ∀ pid world, P world → P ((isAlive pid).run world).2) (r : Registry) (id : JobId)
    {world : σ} (h : P world) : P ((r.removeFinished isAlive id).run world).2 := by
  rw [Registry.removeFinished]
  cases r.table.get? id with
  | none => exact h
  | some current => exact allGone_keeps isAlive hprobe current.pids h

theorem Registry.sweepOver_keeps {P : σ → Prop}
    (hprobe : ∀ pid world, P world → P ((isAlive pid).run world).2) (r : Registry) (seen : List Entry)
    {world : σ} (h : P world) : P ((r.sweepOver isAlive seen).run world).2 := by
  induction seen generalizing r world with
  | nil => exact h
  | cons first rest ih =>
    have hlooked := allGone_keeps isAlive hprobe first.pids h
    rcases hlook : (allGone isAlive first.pids).run world with ⟨_ | _, world'⟩
    · rw [hlook] at hlooked
      rw [r.run_sweepOver_of_alive isAlive rest hlook]
      exact ih r hlooked
    · rw [hlook] at hlooked
      rw [r.run_sweepOver_of_gone isAlive rest hlook]
      exact ih _ (Registry.removeFinished_keeps isAlive hprobe r first.jobId hlooked)

/-- A sweep does nothing but remove entries, and gives those that it has removed. -/
theorem Registry.exists_sweepOver (r : Registry) (seen : List Entry) (world : σ) :
    ∃ ops : List RegistryOp, (∀ op ∈ ops, ∃ id gone, op = .removeIf id fun _ => gone) ∧
      r.performAll ops = (((r.sweepOver isAlive seen).run world).1.2,
        ((r.sweepOver isAlive seen).run world).1.1.map (⟨.removed, ·⟩)) := by
  induction seen generalizing r world with
  | nil => exact ⟨[], fun _ h => absurd h List.not_mem_nil, rfl⟩
  | cons first rest ih =>
    rcases hlook : (allGone isAlive first.pids).run world with ⟨_ | _, world'⟩
    · rw [r.run_sweepOver_of_alive isAlive rest hlook]
      exact ih r world'
    · rw [r.run_sweepOver_of_gone isAlive rest hlook]
      obtain ⟨gone, hremoval⟩ := r.exists_removeFinished isAlive first.jobId world'
      obtain ⟨ops, hops, hrun⟩ := ih (r.removeIf first.jobId fun _ => gone).registry
        ((r.removeFinished isAlive first.jobId).run world').2
      have hperform : r.perform (.removeIf first.jobId fun _ => gone)
          = ((r.removeIf first.jobId fun _ => gone).registry,
            (r.removeIf first.jobId fun _ => gone).result.toList.map (⟨.removed, ·⟩)) :=
        Prod.ext rfl (r.table.removeIf_publishes first.jobId fun _ => gone).2
      refine ⟨.removeIf first.jobId (fun _ => gone) :: ops, ?_, ?_⟩
      · intro op hop
        rcases List.mem_cons.1 hop with rfl | hop
        · exact ⟨first.jobId, gone, rfl⟩
        · exact hops op hop
      · simp only [hremoval, Registry.performAll_cons, hperform, hrun, List.map_append]

end

end JobMonitor
