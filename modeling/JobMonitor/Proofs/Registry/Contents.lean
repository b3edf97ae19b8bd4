import Mathlib.Data.Finset.Card
import Mathlib.Data.List.Induction
import JobMonitor.Proofs.Registry.Sweep

set_option autoImplicit false

/-! # The registry as a finite map

What a registry holds for a job is the entry that was put in for it last, unless it has been removed since
(`registry_is_map`). Whether a removal has removed something is known from its answer. The answers and
all that can be asked about a registry are said in terms of what it holds for each job, so that nobody
needs to know in which way the entries are kept. -/

namespace JobMonitor

/-! ## Answers -/

/-- What an operation answers: the entry that it has replaced or removed, or how many it has removed. -/
inductive RegistryAnswer where
  | entry (e : Option Entry)
  | count (n : Nat)

/-- The answer to an operation. -/
def Registry.answer (r : Registry) : RegistryOp → RegistryAnswer
  | .upsert e => .entry (r.upsert e).result
  | .remove id => .entry (r.remove id).result
  | .removeIf id condition => .entry (r.removeIf id condition).result
  | .clear => .count r.clear.result

/-- Operations one after another, each with its answer. -/
def Registry.history (r : Registry) : List RegistryOp → List (RegistryOp × RegistryAnswer)
  | [] => []
  | op :: rest => (op, r.answer op) :: (r.perform op).1.history rest

theorem Registry.history_concat (r : Registry) (ops : List RegistryOp) (op : RegistryOp) :
    r.history (ops ++ [op]) = r.history ops ++ [(op, (r.performAll ops).1.answer op)] := by
  induction ops generalizing r with
  | nil => rfl
  | cons first rest ih =>
    rw [List.cons_append, history, ih, history, Registry.performAll_cons, List.cons_append]

theorem Registry.performAll_concat (r : Registry) (ops : List RegistryOp) (op : RegistryOp) :
    (r.performAll (ops ++ [op])).1 = ((r.performAll ops).1.perform op).1 := by
  rw [Registry.performAll_append, Registry.performAll_singleton]

/-! ## The last entry that was put in -/

/-- An operation with its answer that settles what is held for a job: an entry of the job was put in, one
    was removed, or the registry was cleared. A removal that gave no entry has removed none. -/
inductive Settled (id : JobId) : RegistryOp × RegistryAnswer → Prop where
  | upsert {e : Entry} (h : e.jobId = id) (answer : RegistryAnswer) : Settled id (.upsert e, answer)
  | remove (e : Entry) : Settled id (.remove id, .entry (some e))
  | removeIf (condition : Entry → Bool) (e : Entry) :
    Settled id (.removeIf id condition, .entry (some e))
  | clear (answer : RegistryAnswer) : Settled id (.clear, answer)

/-- The entry was put in for the job, and nothing that came later settles what is held for it. -/
def LastPut (history : List (RegistryOp × RegistryAnswer)) (id : JobId) (e : Entry) : Prop :=
  ∃ before answer after, history = before ++ (.upsert e, answer) :: after ∧ e.jobId = id ∧
    ∀ step ∈ after, ¬ Settled id step

theorem not_lastPut_nil (id : JobId) (e : Entry) : ¬ LastPut [] id e := by
  rintro ⟨before, answer, after, h, -⟩
  simp at h

theorem lastPut_concat {history : List (RegistryOp × RegistryAnswer)}
    {step : RegistryOp × RegistryAnswer} {id : JobId} {e : Entry} :
    LastPut (history ++ [step]) id e ↔
      step.1 = .upsert e ∧ e.jobId = id ∨ ¬ Settled id step ∧ LastPut history id e := by
  constructor
  · rintro ⟨before, answer, after, h, hid, hafter⟩
    rcases List.eq_nil_or_concat after with rfl | ⟨later, last, rfl⟩
    · obtain ⟨-, hstep⟩ := List.append_inj' h rfl
      exact .inl ⟨by rw [List.singleton_inj.1 hstep], hid⟩
    · rw [List.concat_eq_append] at h hafter
      rw [← List.cons_append, ← List.append_assoc] at h
      obtain ⟨hhistory, hstep⟩ := List.append_inj' h rfl
      refine .inr ⟨?_, before, answer, later, hhistory, hid, fun s hs => ?_⟩
      · rw [List.singleton_inj.1 hstep]
        exact hafter last (List.mem_append_right _ List.mem_cons_self)
      · exact hafter s (List.mem_append_left _ hs)
  · rintro (⟨hstep, hid⟩ | ⟨hstep, before, answer, after, rfl, hid, hafter⟩)
    · obtain ⟨op, answer⟩ := step
      obtain rfl : op = .upsert e := hstep
      exact ⟨history, answer, [], rfl, hid, fun s hs => absurd hs List.not_mem_nil⟩
    · refine ⟨before, answer, after ++ [step], by simp, hid, fun s hs => ?_⟩
      rcases List.mem_append.1 hs with hs | hs
      · exact hafter s hs
      · rwa [List.mem_singleton.1 hs]

/-! ## One operation -/

section

variable {id key : JobId} {answer : RegistryAnswer}

@[simp]
theorem settled_upsert_iff {e : Entry} : Settled id (.upsert e, answer) ↔ e.jobId = id := by
  constructor
  · rintro ⟨h⟩
    exact h
  · exact fun h => .upsert h answer

@[simp]
theorem settled_remove_iff {removed : Option Entry} :
    Settled id (.remove key, .entry removed) ↔ key = id ∧ removed.isSome := by
  constructor
  · rintro ⟨⟩
    exact ⟨rfl, rfl⟩
  · rintro ⟨rfl, hsome⟩
    obtain ⟨e, rfl⟩ := Option.isSome_iff_exists.1 hsome
    exact .remove e

@[simp]
theorem settled_removeIf_iff {condition : Entry → Bool} {removed : Option Entry} :
    Settled id (.removeIf key condition, .entry removed) ↔ key = id ∧ removed.isSome := by
  constructor
  · rintro ⟨⟩
    exact ⟨rfl, rfl⟩
  · rintro ⟨rfl, hsome⟩
    obtain ⟨e, rfl⟩ := Option.isSome_iff_exists.1 hsome
    exact .removeIf condition e

end

theorem Table.get?_removeIf (t : Table) (id : JobId) (condition : Entry → Bool) :
    (t.removeIf id condition).table.get?
      = if (t.removeIf id condition).result.isSome then Function.update t.get? id none
        else t.get? := by
  rw [Table.removeIf]
  cases (t.get? id).filter condition with
  | none => rfl
  | some e => exact t.get?_erase id

/-- What a removal leaves. -/
theorem Table.get?_removeIf_eq_some_iff {t : Table} {id key : JobId} {condition : Entry → Bool}
    {e : Entry} : (t.removeIf key condition).table.get? id = some e ↔
      ¬ (key = id ∧ (t.removeIf key condition).result.isSome) ∧ t.get? id = some e := by
  rw [t.get?_removeIf]
  by_cases hsome : (t.removeIf key condition).result.isSome = true
  · rw [if_pos hsome, Function.update_apply]
    by_cases hid : id = key
    · simp [hid, hsome]
    · simp [hid, Ne.symm hid]
  · simp [hsome]

/-- An entry is held behind an operation if the operation has put it in, or if it was held before and the
    operation does not settle what is held for its job. -/
theorem Registry.get?_perform_eq_some_iff (r : Registry) (op : RegistryOp) {id : JobId} {e : Entry} :
    (r.perform op).1.table.get? id = some e ↔
      op = .upsert e ∧ e.jobId = id ∨ ¬ Settled id (op, r.answer op) ∧ r.table.get? id = some e := by
  cases op with
  | upsert x =>
    show (r.table.upsert x).table.get? id = some e ↔ _
    rw [Table.get?_upsert, Function.update_apply, answer, settled_upsert_iff, RegistryOp.upsert.injEq]
    by_cases hid : x.jobId = id
    · subst hid
      simp only [if_true, Option.some_inj, not_true_eq_false, false_and, or_false]
      exact ⟨fun h => ⟨h, by rw [h]⟩, And.left⟩
    · rw [if_neg (Ne.symm hid), and_iff_right hid]
      refine ⟨.inr, fun h => h.resolve_left ?_⟩
      rintro ⟨rfl, he⟩
      exact hid he
  | remove key =>
    rw [answer, settled_remove_iff]
    exact Table.get?_removeIf_eq_some_iff.trans
      (or_iff_right fun h => RegistryOp.noConfusion h.1).symm
  | removeIf key condition =>
    rw [answer, settled_removeIf_iff]
    exact Table.get?_removeIf_eq_some_iff.trans
      (or_iff_right fun h => RegistryOp.noConfusion h.1).symm
  | clear =>
    refine iff_of_false (Option.some_ne_none e).symm ?_
    rintro (⟨h, -⟩ | ⟨h, -⟩)
    · cases h
    · exact h (.clear _)

/-! ## Any operations -/

/-- **What is held for a job is the entry that was put in for it last**, unless something has removed it
    since. -/
theorem Registry.get?_performAll_eq_some_iff (capacity : Nat) (ops : List RegistryOp) {id : JobId}
    {e : Entry} : ((Registry.new capacity).performAll ops).1.table.get? id = some e ↔
      LastPut ((Registry.new capacity).history ops) id e := by
  induction ops using List.reverseRecOn with
  | nil => exact iff_of_false (Option.some_ne_none e).symm (not_lastPut_nil id e)
  | append_singleton ops op ih =>
    rw [Registry.performAll_concat, Registry.get?_perform_eq_some_iff, Registry.history_concat,
      lastPut_concat, ih]

/-- All that a registry answers is said by what it holds for each job: the operations answer the entry that
    was held before, and change what is held for their job only; and the listed entries are those that
    are held, in the order of the signed job ids. -/
structure Registry.IsMap (r : Registry) : Prop where
  upsert : ∀ e, (r.upsert e).result = r.table.get? e.jobId ∧
    (r.upsert e).registry.table.get? = Function.update r.table.get? e.jobId (some e)
  remove : ∀ id, (r.remove id).result = r.table.get? id ∧
    (r.remove id).registry.table.get? = Function.update r.table.get? id none
  removeIf : ∀ id condition, (r.removeIf id condition).result = (r.table.get? id).filter condition ∧
    (r.removeIf id condition).registry.table.get?
      = if (r.removeIf id condition).result.isSome then Function.update r.table.get? id none
        else r.table.get?
  clear : r.clear.result = r.table.size ∧ r.clear.registry.table.get? = Contents.empty
  contains : ∀ id, r.table.contains id ↔ ∃ e, r.table.get? id = some e
  ascending : r.table.entries.Pairwise fun a b => a.jobId.toInt < b.jobId.toInt
  listed : ∀ e, e ∈ r.table.entries ↔ ∃ id, r.table.get? id = some e
  size : r.table.size = r.table.entries.length ∧
    ∃ ids : Finset JobId, (∀ id, id ∈ ids ↔ ∃ e, r.table.get? id = some e) ∧ r.table.size = ids.card
  isEmpty : r.table.isEmpty ↔ r.table.size = 0

theorem Table.mem_entries_iff {t : Table} {e : Entry} :
    e ∈ t.entries ↔ ∃ id, t.get? id = some e := by
  constructor
  · exact fun h => ⟨e.jobId, Table.get?_eq_some_iff.2 h⟩
  · rintro ⟨id, h⟩
    exact Table.mem_of_get? h

/-- A table is as long as there are jobs that it holds an entry for. -/
theorem Table.exists_finset (t : Table) :
    ∃ ids : Finset JobId, (∀ id, id ∈ ids ↔ ∃ e, t.get? id = some e) ∧ t.size = ids.card := by
  have hids : (t.entries.map (·.jobId)).Nodup :=
    List.pairwise_map.2 (t.ordered.imp Int64.ne_of_lt)
  refine ⟨(t.entries.map (·.jobId)).toFinset, fun id => ?_, ?_⟩
  · rw [List.mem_toFinset, List.mem_map]
    constructor
    · rintro ⟨e, he, rfl⟩
      exact ⟨e, Table.get?_eq_some_iff.2 he⟩
    · rintro ⟨e, he⟩
      exact ⟨e, Table.mem_of_get? he, Table.jobId_of_get? he⟩
  · rw [List.toFinset_card_of_nodup hids, List.length_map]
    rfl

theorem Registry.isMap (r : Registry) : r.IsMap where
  upsert e := ⟨rfl, r.table.get?_upsert e⟩
  remove id := by
    have hresult := (r.publishesOnce.remove id).1
    have hleft : (r.remove id).registry.table.get? = if (r.remove id).result.isSome
        then Function.update r.table.get? id none else r.table.get? := r.table.get?_removeIf id _
    refine ⟨hresult, ?_⟩
    rw [hleft, hresult]
    cases hheld : r.table.get? id with
    | some e => exact if_pos rfl
    | none => rw [← hheld, Function.update_eq_self, ite_self]
  removeIf id condition :=
    ⟨(r.publishesOnce.removeIf id condition).1, r.table.get?_removeIf id condition⟩
  clear := ⟨rfl, rfl⟩
  contains id := Option.isSome_iff_exists
  ascending := r.table.ordered.imp Int64.lt_iff_toInt_lt.1
  listed _ := Table.mem_entries_iff
  size := ⟨rfl, r.table.exists_finset⟩
  isEmpty := by
    rw [Table.isEmpty, List.isEmpty_iff, Table.size, List.length_eq_zero_iff]

/-- **A registry is a finite map.** After any operations it holds for each job the entry that was put in for
    it last and has not been removed since, and all that it answers is said by what it holds. -/
theorem registry_is_map (capacity : Nat) (ops : List RegistryOp) :
    (∀ id e, ((Registry.new capacity).performAll ops).1.table.get? id = some e ↔
      LastPut ((Registry.new capacity).history ops) id e) ∧
    ((Registry.new capacity).performAll ops).1.IsMap :=
  ⟨fun _ _ => Registry.get?_performAll_eq_some_iff capacity ops, Registry.isMap _⟩

end JobMonitor
