import JobMonitor.Job.LogFields
import JobMonitor.Registry.Feed

set_option autoImplicit false

/-! # Delivering changes

Changes are taken from the feed and handed to exporters, each change to one exporter after another
before the next change. An exporter that fails is reported and holds nobody back. When the feed
ends or the export is cancelled, what is still there is delivered before the exporters are
flushed. -/

namespace JobMonitor

/-- Takes changes somewhere. A failure comes with its wording. -/
structure Exporter (m : Type → Type) where
  name : String
  deliver : Change → m (Except String Unit)
  /-- Makes sure that what has been delivered stays. -/
  flush : m (Except String Unit)

/-- The line that reports that an exporter failed on a change. -/
def deliveryFailed (exporter : String) (c : Change) (e : String) : LogLine :=
  { level := .error, message := exporter ++ " exporter failed on " ++ c.display ++ ": " ++ e }

/-- The line that reports that an exporter could not be flushed. -/
def flushFailed (exporter : String) (e : String) : LogLine :=
  { level := .error, message := exporter ++ " exporter failed to flush: " ++ e }

/-- The line that reports lost changes. -/
def fellBehind (lost : Nat) : LogLine :=
  { level := .warn
    message := "Export fell behind, " ++ decimal lost ++ " job events were dropped" }

/-- The line that reports the end of the export. -/
def exportStopped : LogLine := { level := .debug, message := "Export task stopped" }

variable {m : Type → Type} [Monad m]

/-! ## To the exporters -/

/-- Hands a change to the exporters in order. -/
def dispatch (report : LogLine → m Unit) (c : Change) : List (Exporter m) → m Unit
  | [] => pure ()
  | exporter :: rest => do
    match ← exporter.deliver c with
    | .ok () => pure ()
    | .error e => report (deliveryFailed exporter.name c e)
    dispatch report c rest

/-- Flushes the exporters in order. -/
def flushAll (report : LogLine → m Unit) : List (Exporter m) → m Unit
  | [] => pure ()
  | exporter :: rest => do
    match ← exporter.flush with
    | .ok () => pure ()
    | .error e => report (flushFailed exporter.name e)
    flushAll report rest

/-! ## From the feed -/

/-- Why the export stops waiting for changes. -/
inductive ExportStop where
  /-- There will be no more changes. -/
  | feedEnded
  /-- The monitor is being stopped. -/
  | cancelled
deriving DecidableEq, Repr

/-- What the export finds when it waits for the next change. A change that is there comes before
    a reason to stop. -/
inductive Awaited where
  | change (c : Change)
  | lagged (lost : Nat)
  | stopped (reason : ExportStop)

/-- Waits for the next change. -/
def awaitChange (stop : ExportStop) (f : Feed Change) (position : Nat) : Awaited × Nat :=
  match f.receiveFrom position with
  | (.message c, position) => (.change c, position)
  | (.lagged lost, position) => (.lagged lost, position)
  | (.empty, position) => (.stopped stop, position)

/-- Whoever has found something has less outstanding. -/
theorem Feed.receiveFrom_outstanding {α : Type} (f : Feed α) (position : Nat) :
    (f.receiveFrom position).1 = .empty
      ∨ f.published - (f.receiveFrom position).2 < f.published - position := by
  have hk := f.kept_length
  simp only [Feed.receiveFrom]
  split
  · exact .inr (by dsimp only; omega)
  · split
    · next hc =>
      have := (List.getElem?_eq_some_iff.1 hc).1
      exact .inr (by dsimp only; omega)
    · exact .inl rfl

theorem awaitChange_outstanding (stop : ExportStop) (f : Feed Change) (position : Nat) :
    (awaitChange stop f position).1 = .stopped stop
      ∨ f.published - (awaitChange stop f position).2 < f.published - position := by
  have h := f.receiveFrom_outstanding position
  rw [awaitChange]
  split <;> simp_all

/-- Delivers changes until the export stops waiting for them. Gives how far it has got. -/
def forwardChanges (report : LogLine → m Unit) (exporters : List (Exporter m)) (stop : ExportStop)
    (f : Feed Change) (position : Nat) : m Nat := do
  match _h : awaitChange stop f position with
  | (.change c, after) =>
    dispatch report c exporters
    forwardChanges report exporters stop f after
  | (.lagged lost, after) =>
    report (fellBehind lost)
    forwardChanges report exporters stop f after
  | (.stopped _, after) => pure after
termination_by f.published - position
decreasing_by all_goals simpa [_h] using awaitChange_outstanding stop f position

/-- Delivers the changes that are still there. Gives how far it has got. -/
def drainChanges (report : LogLine → m Unit) (exporters : List (Exporter m)) (f : Feed Change)
    (position : Nat) : m Nat := do
  match _h : f.receiveFrom position with
  | (.message c, after) =>
    dispatch report c exporters
    drainChanges report exporters f after
  | (.lagged lost, after) =>
    report (fellBehind lost)
    drainChanges report exporters f after
  | (.empty, after) => pure after
termination_by f.published - position
decreasing_by all_goals simpa [_h] using f.receiveFrom_outstanding position

/-- What the export does next while it is under way: it delivers one change or reports a loss, if there is
    anything. Gives how far it has got. -/
def exportNext (report : LogLine → m Unit) (exporters : List (Exporter m)) (f : Feed Change)
    (position : Nat) : m Nat := do
  match f.receiveFrom position with
  | (.message c, after) =>
    dispatch report c exporters
    pure after
  | (.lagged lost, after) =>
    report (fellBehind lost)
    pure after
  | (.empty, after) => pure after

/-- Exports from a position of a feed on until it stops. -/
def runExport (report : LogLine → m Unit) (exporters : List (Exporter m)) (stop : ExportStop)
    (f : Feed Change) (position : Nat) : m Unit := do
  let position ← forwardChanges report exporters stop f position
  let _ ← drainChanges report exporters f position
  flushAll report exporters
  report exportStopped

end JobMonitor
