import JobMonitor.Proofs.Registry.Sweep

set_option autoImplicit false

/-! # How many jobs there are

A change that adds a job makes the table longer by one, a removal makes it shorter by one, and an
update leaves its length. So the length of the table is the number of the jobs that have been added
less the number of those that have been removed, after any operations. -/

namespace JobMonitor

/-! ## Counting changes -/

/-- How many changes are of a kind. -/
def countOf (kind : ChangeKind) (log : List Change) : Nat := log.countP (·.kind = kind)

@[simp]
theorem countOf_append (kind : ChangeKind) (log more : List Change) :
    countOf kind (log ++ more) = countOf kind log + countOf kind more :=
  List.countP_append

@[simp]
theorem countOf_singleton (kind : ChangeKind) (c : Change) :
    countOf kind [c] = if c.kind = kind then 1 else 0 := by
  simp [countOf, List.countP_cons]

theorem countOf_eq_zero {kind : ChangeKind} {log : List Change} (h : ∀ c ∈ log, c.kind ≠ kind) :
    countOf kind log = 0 := by
  rw [countOf, List.countP_eq_zero]
  intro c hc
  simpa using h c hc

/-- Among removals there are neither new nor replaced jobs. -/
theorem countOf_of_removals {log : List Change} (h : ∀ c ∈ log, c.kind = .removed) :
    countOf .added log = 0 ∧ countOf .updated log = 0 := by
  have hnone : ∀ kind, kind ≠ .removed → countOf kind log = 0 :=
    fun kind hkind => countOf_eq_zero fun c hc => h c hc ▸ hkind.symm
  exact ⟨hnone .added ChangeKind.noConfusion, hnone .updated ChangeKind.noConfusion⟩

theorem countOf_eq_length {kind : ChangeKind} {log : List Change} (h : ∀ c ∈ log, c.kind = kind) :
    countOf kind log = log.length := by
  rw [countOf, List.countP_eq_length]
  intro c hc
  simpa using h c hc

/-! ## The length of the table -/

/-- An entry takes the place of that of its job, or makes the list longer by one. -/
theorem length_placeEntry {e : Entry} {entries : List Entry} (h : Ordered entries) :
    (placeEntry e entries).length
      = entries.length + if (entries.find? (·.jobId = e.jobId)).isSome then 0 else 1 := by
  induction entries with
  | nil => rfl
  | cons first rest ih =>
    obtain ⟨hfirst, hrest⟩ := List.pairwise_cons.1 h
    rw [placeEntry]
    split
    · next hlt =>
      -- All entries come after the one that is put in, so its job has none.
      have habsent : (first :: rest).find? (·.jobId = e.jobId) = none := by
        rw [List.find?_eq_none]
        intro x hx
        have hless : e.jobId < x.jobId := by
          rcases List.mem_cons.1 hx with rfl | hx
          · exact hlt
          · exact Int64.lt_trans hlt (hfirst x hx)
        simpa using (Int64.ne_of_lt hless).symm
      rw [habsent]
      rfl
    · split
      · next heq => simp [heq]
      · next hne =>
        have hskip : ¬ first.jobId = e.jobId := Ne.symm hne
        rw [List.length_cons, ih hrest, List.find?_cons_of_neg (by simpa using hskip),
          List.length_cons, Nat.add_right_comm]

theorem length_filter_of_mem {e : Entry} {entries : List Entry} (h : Ordered entries)
    (he : e ∈ entries) : (entries.filter (·.jobId ≠ e.jobId)).length + 1 = entries.length := by
  induction entries with
  | nil => exact absurd he List.not_mem_nil
  | cons first rest ih =>
    obtain ⟨hfirst, hrest⟩ := List.pairwise_cons.1 h
    rcases List.mem_cons.1 he with rfl | he
    · have hall : ∀ x ∈ rest, decide (x.jobId ≠ e.jobId) = true := by
        intro x hx
        exact decide_eq_true (Int64.ne_of_lt (hfirst x hx)).symm
      rw [List.filter_cons_of_neg (by simp), List.filter_eq_self.2 hall, List.length_cons]
    · have hne : first.jobId ≠ e.jobId := Int64.ne_of_lt (hfirst e he)
      rw [List.filter_cons_of_pos (by simpa using hne), List.length_cons, ih hrest he,
        List.length_cons]

theorem Table.size_upsert (t : Table) (e : Entry) :
    (t.upsert e).table.size = t.size + if t.contains e.jobId then 0 else 1 :=
  length_placeEntry t.ordered

theorem Table.size_erase {t : Table} {id : JobId} {e : Entry} (h : t.get? id = some e) :
    (t.erase id).size + 1 = t.size := by
  obtain rfl := Table.jobId_of_get? h
  exact length_filter_of_mem t.ordered (Table.mem_of_get? h)

theorem Table.size_removeIf (t : Table) (id : JobId) (condition : Entry → Bool) :
    (t.removeIf id condition).table.size + (t.removeIf id condition).changes.length = t.size := by
  rw [Table.removeIf]
  cases hfound : (t.get? id).filter condition with
  | none => rfl
  | some e => exact Table.size_erase (Option.filter_eq_some_iff.1 hfound).1

/-! ## Operations -/

/-- **An operation keeps the balance** of the table and the changes that it publishes. -/
theorem Registry.size_perform (r : Registry) (op : RegistryOp) :
    (r.perform op).1.table.size + countOf .removed (r.perform op).2
      = r.table.size + countOf .added (r.perform op).2 := by
  by_cases hop : ∃ e, op = .upsert e
  · obtain ⟨e, rfl⟩ := hop
    have hsize := r.table.size_upsert e
    have hchanges : (r.perform (.upsert e)).2
        = [⟨if r.table.contains e.jobId then .updated else .added, e⟩] := rfl
    rw [hchanges, countOf_singleton, countOf_singleton]
    show (r.table.upsert e).table.size + _ = _
    rw [hsize]
    cases r.table.contains e.jobId <;> simp
  · -- Anything else is removals, each of an entry that was there.
    have hkind : ∀ c ∈ (r.perform op).2, c.kind = .removed :=
      fun c hc => Registry.kind_of_mem_perform (fun e he => hop ⟨e, he⟩) hc
    rw [(countOf_of_removals hkind).1, countOf_eq_length hkind, Nat.add_zero]
    cases op with
    | upsert e => exact absurd ⟨e, rfl⟩ hop
    | remove id => exact r.table.size_removeIf id _
    | removeIf id condition => exact r.table.size_removeIf id condition
    | clear =>
      show Table.empty.size + (r.table.entries.map _).length = _
      rw [List.length_map]
      exact Nat.zero_add _

theorem Registry.size_performAll (r : Registry) (ops : List RegistryOp) :
    (r.performAll ops).1.table.size + countOf .removed (r.performAll ops).2
      = r.table.size + countOf .added (r.performAll ops).2 := by
  induction ops generalizing r with
  | nil => rfl
  | cons op rest ih =>
    have hop := r.size_perform op
    have hrest := ih (r.perform op).1
    simp only [Registry.performAll_cons, countOf_append]
    omega

end JobMonitor
