import JobMonitor.Job.LogFields
import JobMonitor.Registry.Feed
import JobMonitor.Registry.Table

set_option autoImplicit false

/-! # The registry

The job table together with the feed of its changes. Every change of the table is published. -/

namespace JobMonitor

/-- The job table and the feed of its changes. -/
structure Registry where
  table : Table
  feed : Feed Change

/-- How many changes the feed of a registry keeps if nothing else is asked for. -/
def Registry.defaultFeedCapacity : Nat := 1024

/-- The registry without jobs and subscribers. -/
def Registry.new (feedCapacity : Nat := Registry.defaultFeedCapacity) : Registry :=
  ⟨.empty, .new feedCapacity⟩

/-- What an operation gives and the registry after it. The changes that it made have been
    published. -/
structure Committed (α : Type) where
  result : α
  registry : Registry
  changes : List Change

/-- Takes over the changed table and publishes its changes. -/
def Registry.commit {α : Type} (r : Registry) (m : Mutated α) : Committed α :=
  ⟨m.result, ⟨m.table, r.feed.publishAll m.changes⟩, m.changes⟩

/-! ## Operations -/

@[inherit_doc Table.upsert]
def Registry.upsert (r : Registry) (e : Entry) : Committed (Option Entry) := r.commit (r.table.upsert e)

@[inherit_doc Table.remove]
def Registry.remove (r : Registry) (id : JobId) : Committed (Option Entry) :=
  r.commit (r.table.remove id)

@[inherit_doc Table.removeIf]
def Registry.removeIf (r : Registry) (id : JobId) (condition : Entry → Bool) :
    Committed (Option Entry) :=
  r.commit (r.table.removeIf id condition)

@[inherit_doc Table.clear]
def Registry.clear (r : Registry) : Committed Nat := r.commit r.table.clear

@[inherit_doc Feed.subscribe]
def Registry.subscribe (r : Registry) (name : String) : Registry :=
  { r with feed := r.feed.subscribe name }

@[inherit_doc Feed.unsubscribe]
def Registry.unsubscribe (r : Registry) (name : String) : Registry :=
  { r with feed := r.feed.unsubscribe name }

@[inherit_doc Feed.receive]
def Registry.receive (r : Registry) (name : String) : Received Change × Registry :=
  let (received, feed) := r.feed.receive name
  (received, { r with feed })

end JobMonitor
