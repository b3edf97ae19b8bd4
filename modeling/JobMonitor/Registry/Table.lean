import JobMonitor.Job.Entry

set_option autoImplicit false

/-! # The job table

The entries of the watched jobs, at most one for each job, in the order of the job ids. An
operation that changes the table also says what has changed, in order, so that whoever knows the
table before can follow. -/

namespace JobMonitor

/-- The entries stand in the strict order of their job ids. -/
def Ordered (entries : List Entry) : Prop := entries.Pairwise fun a b => a.jobId < b.jobId

/-- The watched jobs. -/
structure Table where
  entries : List Entry
  ordered : Ordered entries

/-- The table without jobs. -/
def Table.empty : Table := ⟨[], List.Pairwise.nil⟩

instance : Inhabited Table := ⟨Table.empty⟩

/-! ## Looking up -/

/-- The entry of a job. -/
def Table.get? (t : Table) (id : JobId) : Option Entry := t.entries.find? (·.jobId = id)

/-- The job is in the table. -/
def Table.contains (t : Table) (id : JobId) : Bool := (t.get? id).isSome

/-- How many jobs there are. -/
def Table.size (t : Table) : Nat := t.entries.length

/-- There are no jobs. -/
def Table.isEmpty (t : Table) : Bool := t.entries.isEmpty

/-- The ids of the jobs in order. -/
def Table.ids (t : Table) : List JobId := t.entries.map (·.jobId)

/-! ## Putting an entry in its place -/

/-- Puts an entry in its place, instead of the entry of the same job if there is one. -/
def placeEntry (e : Entry) : List Entry → List Entry
  | [] => [e]
  | first :: rest =>
    if e.jobId < first.jobId then e :: first :: rest
    else if e.jobId = first.jobId then e :: rest
    else first :: placeEntry e rest

theorem mem_of_mem_placeEntry {e x : Entry} {entries : List Entry}
    (h : x ∈ placeEntry e entries) : x = e ∨ x ∈ entries := by
  induction entries with
  | nil => simpa [placeEntry] using h
  | cons first rest ih =>
    rw [placeEntry] at h
    split at h
    · simpa using h
    · split at h
      · simp only [List.mem_cons] at h ⊢
        exact h.imp_right .inr
      · simp only [List.mem_cons] at h ⊢
        rcases h with h | h
        · exact .inr (.inl h)
        · exact (ih h).imp_right .inr

theorem ordered_placeEntry (e : Entry) {entries : List Entry} (h : Ordered entries) :
    Ordered (placeEntry e entries) := by
  induction entries with
  | nil => exact List.pairwise_singleton ..
  | cons first rest ih =>
    obtain ⟨hfirst, hrest⟩ := List.pairwise_cons.1 h
    rw [placeEntry]
    split
    · next hlt =>
      refine List.pairwise_cons.2 ⟨fun x hx => ?_, h⟩
      rcases List.mem_cons.1 hx with rfl | hx
      · exact hlt
      · exact Int64.lt_trans hlt (hfirst x hx)
    · split
      · next heq => exact List.pairwise_cons.2 ⟨fun x hx => heq ▸ hfirst x hx, hrest⟩
      · next hlt hne =>
        refine List.pairwise_cons.2 ⟨fun x hx => ?_, ih hrest⟩
        rcases mem_of_mem_placeEntry hx with rfl | hx
        · exact Int64.lt_of_le_of_ne (Int64.not_lt.1 hlt) (Ne.symm hne)
        · exact hfirst x hx

/-- The entry that has just been put in is found. -/
theorem find?_placeEntry (e : Entry) (entries : List Entry) (id : JobId) :
    (placeEntry e entries).find? (·.jobId = id)
      = if e.jobId = id then some e else entries.find? (·.jobId = id) := by
  induction entries with
  | nil => by_cases h : e.jobId = id <;> simp [placeEntry, h]
  | cons first rest ih =>
    rw [placeEntry]
    split
    · by_cases h : e.jobId = id <;> simp [h]
    · split
      · next heq => by_cases h : e.jobId = id <;> simp [h, ← heq]
      · next hne =>
        by_cases hf : first.jobId = id
        · have : e.jobId ≠ id := fun h => hne (h.trans hf.symm)
          simp [hf, this]
        · simp only [hf, decide_false, Bool.false_eq_true, not_false_eq_true,
            List.find?_cons_of_neg, ih]

/-! ## Changing the table -/

/-- What an operation gives, the table after it and the changes that it made. -/
structure Mutated (α : Type) where
  result : α
  table : Table
  changes : List Change

/-- Puts an entry into the table. Gives the entry that it replaces. -/
def Table.upsert (t : Table) (e : Entry) : Mutated (Option Entry) :=
  let replaced := t.get? e.jobId
  { result := replaced
    table := ⟨placeEntry e t.entries, ordered_placeEntry e t.ordered⟩
    changes := [⟨if replaced.isSome then .updated else .added, e⟩] }

/-- The table without the entry of a job. -/
def Table.erase (t : Table) (id : JobId) : Table :=
  ⟨t.entries.filter (·.jobId ≠ id), t.ordered.filter _⟩

/-- Removes the entry of a job if the condition holds for it. Gives the removed entry. -/
def Table.removeIf (t : Table) (id : JobId) (condition : Entry → Bool) : Mutated (Option Entry) :=
  match (t.get? id).filter condition with
  | some e => ⟨some e, t.erase id, [⟨.removed, e⟩]⟩
  | none => ⟨none, t, []⟩

/-- Removes the entry of a job and gives it. -/
def Table.remove (t : Table) (id : JobId) : Mutated (Option Entry) := t.removeIf id fun _ => true

/-- Removes all entries in order. Gives their number. -/
def Table.clear (t : Table) : Mutated Nat :=
  ⟨t.size, .empty, t.entries.map (⟨.removed, ·⟩)⟩

end JobMonitor
