import Mathlib.Logic.Function.Basic
import JobMonitor.Registry.Basic

set_option autoImplicit false

/-! # Replaying changes

What a table holds is a function from job ids to entries. A change says how that function changes,
and a list of changes fits a table when each of them says what was so at its point. Every operation
on the table gives changes that fit the table before it and replay to the table after it. -/

namespace JobMonitor

/-- Which entry is held for each job. -/
abbrev Contents := JobId → Option Entry

/-- Nothing is held. -/
def Contents.empty : Contents := fun _ => none

/-! ## Changes -/

/-- The contents after a change. -/
def Change.applyTo (c : Change) (contents : Contents) : Contents :=
  match c.kind with
  | .added | .updated => Function.update contents c.entry.jobId (some c.entry)
  | .removed => Function.update contents c.entry.jobId none

theorem Change.applyTo_removed {c : Change} (h : c.kind = .removed) (contents : Contents) :
    c.applyTo contents = Function.update contents c.entry.jobId none := by
  rw [applyTo, h]

/-- The change says what was so: a job that is added was absent, one that is updated was present,
    and one that is removed was present with exactly the entry that the change holds. -/
def Change.Fits (c : Change) (contents : Contents) : Prop :=
  match c.kind with
  | .added => contents c.entry.jobId = none
  | .updated => contents c.entry.jobId ≠ none
  | .removed => contents c.entry.jobId = some c.entry

/-- The contents after changes one after another. -/
def replay (contents : Contents) (log : List Change) : Contents :=
  log.foldl (fun contents c => c.applyTo contents) contents

/-- Each of the changes fits the contents at its point. -/
def LogFits : (contents : Contents) → List Change → Prop
  | _, [] => True
  | contents, c :: rest => c.Fits contents ∧ LogFits (c.applyTo contents) rest

theorem replay_cons (contents : Contents) (c : Change) (rest : List Change) :
    replay contents (c :: rest) = replay (c.applyTo contents) rest := rfl

theorem replay_append (contents : Contents) (log more : List Change) :
    replay contents (log ++ more) = replay (replay contents log) more :=
  List.foldl_append

theorem logFits_append {contents : Contents} {log more : List Change} :
    LogFits contents (log ++ more) ↔ LogFits contents log ∧ LogFits (replay contents log) more := by
  induction log generalizing contents with
  | nil => simp [LogFits, replay]
  | cons c rest ih => simp [LogFits, replay, ih, and_assoc]

/-! ## The table as contents -/

theorem Table.jobId_of_get? {t : Table} {id : JobId} {e : Entry} (h : t.get? id = some e) :
    e.jobId = id := by
  simpa using List.find?_some h

theorem Table.mem_of_get? {t : Table} {id : JobId} {e : Entry} (h : t.get? id = some e) :
    e ∈ t.entries :=
  List.mem_of_find?_eq_some h

theorem Table.get?_upsert (t : Table) (e : Entry) :
    (t.upsert e).table.get? = Function.update t.get? e.jobId (some e) := by
  funext id
  rw [Table.get?, Table.upsert, find?_placeEntry, Function.update_apply]
  by_cases h : e.jobId = id
  · simp [h]
  · simp [h, Ne.symm h, Table.get?]

theorem Table.get?_erase (t : Table) (id : JobId) :
    (t.erase id).get? = Function.update t.get? id none := by
  funext id'
  rw [Table.get?, Table.erase, List.find?_filter, Function.update_apply]
  by_cases h : id' = id
  · subst h
    simp
  · rw [if_neg h, Table.get?]
    congr 1
    funext e
    by_cases he : e.jobId = id' <;> simp [he, h]

/-- The entry of a job is the only one with its id. -/
theorem find?_eq_some_of_mem {entries : List Entry} (h : Ordered entries) {e : Entry}
    (he : e ∈ entries) : entries.find? (·.jobId = e.jobId) = some e := by
  induction entries with
  | nil => simp at he
  | cons first rest ih =>
    obtain ⟨hfirst, hrest⟩ := List.pairwise_cons.1 h
    rcases List.mem_cons.1 he with rfl | he
    · simp
    · have hne : first.jobId ≠ e.jobId := Int64.ne_of_lt (hfirst e he)
      rw [List.find?_cons_of_neg (by simpa using hne)]
      exact ih hrest he

theorem Table.get?_eq_some_iff {t : Table} {e : Entry} :
    t.get? e.jobId = some e ↔ e ∈ t.entries :=
  ⟨Table.mem_of_get?, find?_eq_some_of_mem t.ordered⟩

/-! ## Operations -/

/-- The changes of an operation on a table fit the table and lead to the one after it. -/
def Mutated.Replays {α : Type} (m : Mutated α) (before : Table) : Prop :=
  LogFits before.get? m.changes ∧ replay before.get? m.changes = m.table.get?

theorem Table.upsert_replays (t : Table) (e : Entry) : (t.upsert e).Replays t := by
  rw [Mutated.Replays, Table.get?_upsert]
  cases h : t.get? e.jobId with
  | none => simp [Table.upsert, h, LogFits, Change.Fits, replay, Change.applyTo]
  | some old => simp [Table.upsert, h, LogFits, Change.Fits, replay, Change.applyTo]

theorem Table.removeIf_replays (t : Table) (id : JobId) (condition : Entry → Bool) :
    (t.removeIf id condition).Replays t := by
  rw [Mutated.Replays, Table.removeIf]
  cases h : (t.get? id).filter condition with
  | none => simp [LogFits, replay]
  | some e =>
    have he : t.get? id = some e := (Option.filter_eq_some_iff.1 h).1
    have hid : e.jobId = id := Table.jobId_of_get? he
    simp [LogFits, Change.Fits, replay, Change.applyTo, hid, he, Table.get?_erase]

/-- Removing the entries one after another leaves nothing. -/
theorem replay_removals {entries : List Entry} (h : Ordered entries) {contents : Contents}
    (hc : contents = fun id => entries.find? (·.jobId = id)) :
    LogFits contents (entries.map (⟨.removed, ·⟩)) ∧
      replay contents (entries.map (⟨.removed, ·⟩)) = Contents.empty := by
  induction entries generalizing contents with
  | nil =>
    subst hc
    exact ⟨trivial, rfl⟩
  | cons first rest ih =>
    obtain ⟨hfirst, hrest⟩ := List.pairwise_cons.1 h
    have hnext : (Change.mk .removed first).applyTo contents
        = fun id => rest.find? (·.jobId = id) := by
      funext id
      show Function.update contents first.jobId none id = _
      rw [Function.update_apply]
      by_cases hid : id = first.jobId
      · have hnone : rest.find? (·.jobId = id) = none := by
          rw [List.find?_eq_none]
          intro e he
          have := Int64.ne_of_lt (hfirst e he)
          simpa [hid] using this.symm
        rw [if_pos hid, hnone]
      · rw [if_neg hid, hc]
        exact List.find?_cons_of_neg (by simpa using Ne.symm hid)
    obtain ⟨hfits, hreplay⟩ := ih hrest hnext
    refine ⟨⟨?_, hfits⟩, hreplay⟩
    subst hc
    exact find?_eq_some_of_mem h List.mem_cons_self

theorem Table.clear_replays (t : Table) : t.clear.Replays t :=
  replay_removals t.ordered rfl

end JobMonitor
