import JobMonitor.Export.Delivery
import JobMonitor.Proofs.Registry.Subscriber
import Mathlib.Data.List.ReduceOption

set_option autoImplicit false

/-! # What is delivered

An export that is not too far behind hands each of the unread changes to the exporters, in order and
once, and finds nothing then. It makes no difference for that how often it stops waiting in
between, so the loop is one step (`exportNext`) again and again, and changes may be published between any
two of its steps (`exportAlong_forwardChanges`). -/

namespace JobMonitor

variable {m : Type → Type} [Monad m]

/-! ## One step -/

variable {report : LogLine → m Unit} {exporters : List (Exporter m)} {f : Feed Change}
  {position : Nat}

/-- While the export waits it delivers in the same way, and it waits until there is nothing more. -/
theorem forwardChanges_eq_drainChanges (stop : ExportStop) :
    forwardChanges report exporters stop f position = drainChanges report exporters f position := by
  -- Both loops take the same steps, and each step leaves less outstanding.
  induction hd : f.published - position using Nat.strongRecOn generalizing position with
  | ind d ih =>
    have houtstanding := f.receiveFrom_outstanding position
    rw [forwardChanges, drainChanges, awaitChange]
    rcases hfound : f.receiveFrom position with ⟨received, after⟩
    rw [hfound] at houtstanding
    cases received with
    | message c =>
      have hless : f.published - after < f.published - position := by simpa using houtstanding
      simp only [ih _ (hd ▸ hless) rfl]
    | lagged lost =>
      have hless : f.published - after < f.published - position := by simpa using houtstanding
      simp only [ih _ (hd ▸ hless) rfl]
    | empty => rfl

variable [LawfulMonad m]

/-- What is still there is delivered step by step until there is nothing more. -/
theorem drainChanges_eq_exportNext :
    drainChanges report exporters f position = (do
      let after ← exportNext report exporters f position
      if (f.receiveFrom position).1 = .empty then pure after
      else drainChanges report exporters f after) := by
  rw [drainChanges, exportNext]
  split
  · next c after hfound => simp [hfound]
  · next lost after hfound => simp [hfound]
  · next after hfound => simp [hfound]

/-- While the export waits it takes one step after another, until there is nothing more. -/
theorem forwardChanges_eq_exportNext (stop : ExportStop) :
    forwardChanges report exporters stop f position = (do
      let after ← exportNext report exporters f position
      if (f.receiveFrom position).1 = .empty then pure after
      else forwardChanges report exporters stop f after) := by
  simp only [forwardChanges_eq_drainChanges]
  exact drainChanges_eq_exportNext

/-! ## A feed that keeps what is unread -/

variable {unread : List Change}

theorem exportNext_eq (h : f.UnreadFrom position unread) (hroom : unread.length ≤ f.capacity) :
    exportNext report exporters f position = (do
      unread.head?.toList.forM fun c => dispatch report c exporters
      pure (f.receiveFrom position).2) := by
  obtain ⟨hfound, -⟩ := h.receiveFrom hroom
  rw [exportNext]
  rcases hreceived : f.receiveFrom position with ⟨received, after⟩
  rw [hreceived] at hfound
  cases unread with
  | nil =>
    obtain rfl : received = .empty := hfound
    simp
  | cons c rest =>
    obtain rfl : received = .message c := hfound
    simp

/-- All that is unread is delivered in order. -/
theorem drainChanges_eq (h : f.UnreadFrom position unread) (hroom : unread.length ≤ f.capacity) :
    drainChanges report exporters f position = (do
      unread.forM fun c => dispatch report c exporters
      pure f.published) := by
  induction unread generalizing position with
  | nil =>
    obtain ⟨hfound, hafter⟩ := h.receiveFrom hroom
    have hend : (f.receiveFrom position).2 = f.published := hafter.behind
    rw [drainChanges_eq_exportNext, exportNext_eq h hroom, hfound, hend]
    simp
  | cons c rest ih =>
    obtain ⟨hfound, hafter⟩ := h.receiveFrom hroom
    rw [drainChanges_eq_exportNext, exportNext_eq h hroom, hfound]
    have hrest := ih hafter (Nat.le_of_succ_le hroom)
    simp [hrest]

theorem Feed.unreadFrom_published {α : Type} (f : Feed α) : f.UnreadFrom f.published [] :=
  ⟨rfl, f.kept, List.suffix_rfl, List.nil_suffix⟩

/-! ## A feed that goes on -/

/-- The export goes on while changes are published. Before the next step of the export (`none`) any number
    of changes may be published. -/
def exportAlong (report : LogLine → m Unit) (exporters : List (Exporter m)) :
    List (Option Change) → Feed Change → Nat → m (Feed Change × Nat)
  | [], f, position => pure (f, position)
  | some c :: rest, f, position => exportAlong report exporters rest (f.publish c) position
  | none :: rest, f, position => do
    exportAlong report exporters rest f (← exportNext report exporters f position)

/-- With so many changes outstanding the feed has room for all that is outstanding, now and after each of
    the steps. -/
def KeepsPace (capacity : Nat) : Nat → List (Option Change) → Prop
  | outstanding, [] => outstanding ≤ capacity
  | outstanding, some _ :: rest => outstanding ≤ capacity ∧ KeepsPace capacity (outstanding + 1) rest
  | outstanding, none :: rest => outstanding ≤ capacity ∧ KeepsPace capacity (outstanding - 1) rest

/-- **The loop of the export is its steps with publishing in between.** What has been published before it
    ends is delivered in order, whether that was before the loop began or between two of its steps. -/
theorem exportAlong_forwardChanges (h : f.UnreadFrom position unread) (hsome : f.subscribers ≠ [])
    {steps : List (Option Change)} (hpace : KeepsPace f.capacity unread.length steps)
    (stop : ExportStop) :
    (do
      let (f, position) ← exportAlong report exporters steps f position
      forwardChanges report exporters stop f position) = (do
      (unread ++ steps.reduceOption).forM fun c => dispatch report c exporters
      pure (f.publishAll steps.reduceOption).published) := by
  induction steps generalizing f position unread with
  | nil =>
    have hdrained : drainChanges report exporters f position = (do
        unread.forM fun c => dispatch report c exporters
        pure f.published) := drainChanges_eq h hpace
    simp [exportAlong, forwardChanges_eq_drainChanges, hdrained, Feed.publishAll, List.reduceOption_nil]
  | cons s rest ih =>
    cases s with
    | some c =>
      have hpublished := h.publish hsome c
      have hrest := ih hpublished (by rwa [f.subscribers_publish])
        (by rw [f.capacity_publish, List.length_append]; exact hpace.2)
      rw [exportAlong, hrest]
      simp [List.reduceOption_cons_of_some, Feed.publishAll]
    | none =>
      have hnext : exportNext report exporters f position = (do
          unread.head?.toList.forM fun c => dispatch report c exporters
          pure (f.receiveFrom position).2) := exportNext_eq h hpace.1
      obtain ⟨-, hafter⟩ := h.receiveFrom hpace.1
      have hrest := ih hafter hsome (by rw [List.length_tail]; exact hpace.2)
      rw [exportAlong, hnext]
      simp only [bind_assoc, pure_bind, hrest]
      cases unread <;> simp [List.reduceOption_cons_of_none]

/-- **An export that ends has delivered all that was unread**, in order, and then flushes the
    exporters. -/
theorem runExport_eq (h : f.UnreadFrom position unread) (hroom : unread.length ≤ f.capacity)
    (stop : ExportStop) :
    runExport report exporters stop f position = (do
      unread.forM fun c => dispatch report c exporters
      flushAll report exporters
      report exportStopped) := by
  have hdrained : drainChanges report exporters f f.published = pure f.published := by
    rw [drainChanges_eq f.unreadFrom_published (Nat.zero_le _)]
    simp
  rw [runExport, forwardChanges_eq_drainChanges, drainChanges_eq h hroom]
  simp [hdrained]

end JobMonitor
