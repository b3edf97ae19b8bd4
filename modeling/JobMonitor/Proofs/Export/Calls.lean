import JobMonitor.Proofs.Export.Delivery
import JobMonitor.Proofs.Registry.Lag
import Mathlib.Data.List.DropRight
import Mathlib.Data.List.Nodup

set_option autoImplicit false

/-! # What the exporters are called for

Each exporter notes what it is called for and then does what it does anyway (`Exporter.noted`). What an
action has noted can then be told apart from what it does (`Notes`), and two actions in turn have noted
what the first has noted and then what the second has. So the notes of a whole export come from those
of one delivery, and no failure shows in them.

A feed that has lost some of what is unread still keeps the newest of it. The export reports the loss
once and delivers what is kept, whichever of its loops finds it. -/

namespace JobMonitor

/-! ## Calls -/

/-- What an exporter is called for. -/
inductive ExporterTask where
  | deliver (c : Change)
  | flush
deriving DecidableEq

/-- A call of one of the exporters, which are numbered in order. -/
structure ExporterCall where
  exporter : Nat
  task : ExporterTask
deriving DecidableEq

/-- Some exporters are called in order, each once and for the same. -/
def callEach (first count : Nat) (task : ExporterTask) : List ExporterCall :=
  (List.range' first count).map (⟨·, task⟩)

/-- All exporters are called for each change in turn, and in the end they are flushed. -/
def exportCalls (count : Nat) (changes : List Change) : List ExporterCall :=
  (changes.flatMap fun c => callEach 0 count (.deliver c)) ++ callEach 0 count .flush

/-- What one of the exporters is called for. -/
def tasksOf (exporter : Nat) (calls : List ExporterCall) : List ExporterTask :=
  (calls.filter (·.exporter = exporter)).map (·.task)

theorem tasksOf_append (exporter : Nat) (calls more : List ExporterCall) :
    tasksOf exporter (calls ++ more) = tasksOf exporter calls ++ tasksOf exporter more := by
  rw [tasksOf, List.filter_append, List.map_append, tasksOf, tasksOf]

theorem tasksOf_callEach {exporter count : Nat} (h : exporter < count) (task : ExporterTask) :
    tasksOf exporter (callEach 0 count task) = [task] := by
  have hmem : exporter ∈ List.range' 0 count :=
    List.mem_range'_1.2 ⟨Nat.zero_le _, by rwa [Nat.zero_add]⟩
  have hone : (List.range' 0 count).filter (· = exporter) = [exporter] := by
    rw [List.filter_eq, List.count_eq_one_of_mem List.nodup_range' hmem, List.replicate_one]
  rw [tasksOf, callEach, List.filter_map]
  show (((List.range' 0 count).filter (· = exporter)).map _).map _ = _
  rw [hone]
  rfl

/-- Each exporter gets all of the changes, and then it is flushed. -/
theorem tasksOf_exportCalls {exporter count : Nat} (h : exporter < count) (changes : List Change) :
    tasksOf exporter (exportCalls count changes) = changes.map .deliver ++ [.flush] := by
  rw [exportCalls, tasksOf_append, tasksOf_callEach h]
  congr 1
  induction changes with
  | nil => rfl
  | cons c rest ih =>
    rw [List.flatMap_cons, tasksOf_append, tasksOf_callEach h, ih, List.map_cons,
      List.singleton_append]

/-! ## Exporters that note their calls -/

variable {m : Type → Type} [Monad m]

/-- Notes a call and then does what it is for. -/
def noting {α : Type} (call : ExporterCall) (x : m α) : StateT (List ExporterCall) m α := do
  modify (· ++ [call])
  liftM x

/-- The same exporter. It notes what it is called for. -/
def Exporter.noted (number : Nat) (x : Exporter m) : Exporter (StateT (List ExporterCall) m) where
  name := x.name
  deliver c := noting ⟨number, .deliver c⟩ (x.deliver c)
  flush := noting ⟨number, .flush⟩ x.flush

/-- The same exporters, which are numbered from here on. -/
def notedFrom : Nat → List (Exporter m) → List (Exporter (StateT (List ExporterCall) m))
  | _, [] => []
  | number, x :: rest => x.noted number :: notedFrom (number + 1) rest

/-- What is reported is not a call. -/
def unnoted (report : LogLine → m Unit) (line : LogLine) : StateT (List ExporterCall) m Unit :=
  liftM (report line)

/-- One action does what the other does and notes these calls. -/
def Notes {α : Type} (noted : StateT (List ExporterCall) m α) (x : m α) (calls : List ExporterCall) :
    Prop :=
  ∀ before, noted.run before = (do
    let a ← x
    pure (a, before ++ calls))

section

variable {α β : Type} {calls more : List ExporterCall} [LawfulMonad m]

theorem notes_pure (a : α) : Notes (pure a : StateT (List ExporterCall) m α) (pure a) [] := by
  intro before
  simp

theorem notes_unnoted (report : LogLine → m Unit) (line : LogLine) :
    Notes (unnoted report line) (report line) [] := by
  intro before
  simp [unnoted]

theorem notes_noting (call : ExporterCall) (x : m α) : Notes (noting call x) x [call] := by
  intro before
  simp [noting]

theorem Notes.bind {noted : StateT (List ExporterCall) m α} {x : m α}
    {noted' : α → StateT (List ExporterCall) m β} {f : α → m β} (h : Notes noted x calls)
    (h' : ∀ a, Notes (noted' a) (f a) more) : Notes (noted >>= noted') (x >>= f) (calls ++ more) := by
  intro before
  have hthen := fun a => h' a (before ++ calls)
  simp [h before, hthen]

/-- Nothing is noted first. -/
theorem Notes.after {noted : StateT (List ExporterCall) m α} {x : m α}
    {noted' : α → StateT (List ExporterCall) m β} {f : α → m β} (h : Notes noted x [])
    (h' : ∀ a, Notes (noted' a) (f a) calls) : Notes (noted >>= noted') (x >>= f) calls :=
  h.bind h'

theorem notes_forM {γ : Type} {noted : γ → StateT (List ExporterCall) m Unit} {act : γ → m Unit}
    {calls : γ → List ExporterCall} (h : ∀ a, Notes (noted a) (act a) (calls a)) (as : List γ) :
    Notes (as.forM noted) (as.forM act) (as.flatMap calls) := by
  induction as with
  | nil => exact notes_pure ()
  | cons a rest ih => exact (h a).bind fun _ => ih

/-- Whether an exporter fails or not, the next is called. -/
theorem notes_reported {x : m (Except String Unit)} {rest : m Unit}
    {noted : StateT (List ExporterCall) m Unit} (report : LogLine → m Unit) (failed : String → LogLine)
    (call : ExporterCall) (h : Notes noted rest calls) :
    Notes (do
        match ← noting call x with
        | .ok () => pure ()
        | .error e => unnoted report (failed e)
        noted)
      (do
        match ← x with
        | .ok () => pure ()
        | .error e => report (failed e)
        rest)
      (call :: calls) := by
  refine (notes_noting call x).bind fun result => ?_
  cases result with
  | ok _ => exact h
  | error e => exact (notes_unnoted report _).after fun _ => h

theorem notes_dispatch (report : LogLine → m Unit) (c : Change) (first : Nat)
    (exporters : List (Exporter m)) :
    Notes (dispatch (unnoted report) c (notedFrom first exporters)) (dispatch report c exporters)
      (callEach first exporters.length (.deliver c)) := by
  induction exporters generalizing first with
  | nil => exact notes_pure ()
  | cons x rest ih =>
    exact notes_reported report (deliveryFailed x.name c) ⟨first, .deliver c⟩ (ih (first + 1))

theorem notes_flushAll (report : LogLine → m Unit) (first : Nat) (exporters : List (Exporter m)) :
    Notes (flushAll (unnoted report) (notedFrom first exporters)) (flushAll report exporters)
      (callEach first exporters.length .flush) := by
  induction exporters generalizing first with
  | nil => exact notes_pure ()
  | cons x rest ih => exact notes_reported report (flushFailed x.name) ⟨first, .flush⟩ (ih (first + 1))

end

/-! ## A feed that has lost some of what is unread -/

/-- Reports how many of the unread changes are not kept, if there are any. -/
def reportLoss (report : LogLine → m Unit) (capacity : Nat) (unread : List Change) : m Unit :=
  if unread.length ≤ capacity then pure () else report (fellBehind (unread.length - capacity))

/-- Delivers changes to exporters and flushes them. -/
def deliverAll (report : LogLine → m Unit) (exporters : List (Exporter m)) (changes : List Change) :
    m Unit := do
  changes.forM fun c => dispatch report c exporters
  flushAll report exporters
  report exportStopped

section

variable {report : LogLine → m Unit} {exporters : List (Exporter m)} {f : Feed Change}
  {position : Nat} {unread : List Change} [LawfulMonad m]

/-- A loss is reported, and what is kept is delivered in order. -/
theorem drainChanges_eq_kept (h : f.UnreadFrom position unread) :
    drainChanges report exporters f position = (do
      reportLoss report f.capacity unread
      (unread.rtake f.capacity).forM fun c => dispatch report c exporters
      pure f.published) := by
  rw [reportLoss, List.rtake]
  split
  · next hroom =>
    rw [drainChanges_eq h hroom, Nat.sub_eq_zero_of_le hroom, List.drop_zero, pure_bind]
  · next hroom =>
    obtain ⟨hlost, hkept⟩ := h.receiveFrom_lagged (Nat.lt_of_not_le hroom)
    have hlength : (unread.drop (unread.length - f.capacity)).length ≤ f.capacity := by
      rw [List.length_drop]
      omega
    rw [drainChanges_eq_exportNext, exportNext]
    rcases hfound : f.receiveFrom position with ⟨received, after⟩
    rw [hfound] at hlost hkept
    obtain rfl : received = .lagged (unread.length - f.capacity) := hlost
    have hrest : drainChanges report exporters f after = _ := drainChanges_eq hkept hlength
    simp [hrest]

/-- An export reports a loss, delivers what is kept and flushes the exporters. Why it stops makes no
    difference. -/
theorem runExport_eq_kept (h : f.UnreadFrom position unread) (stop : ExportStop) :
    runExport report exporters stop f position = (do
      reportLoss report f.capacity unread
      deliverAll report exporters (unread.rtake f.capacity)) := by
  have hnone : drainChanges report exporters f f.published = pure f.published := by
    rw [drainChanges_eq f.unreadFrom_published (Nat.zero_le _)]
    simp
  rw [runExport, forwardChanges_eq_drainChanges, drainChanges_eq_kept h]
  simp [hnone, deliverAll]

theorem notes_runExport (h : f.UnreadFrom position unread) (stop : ExportStop) :
    Notes (runExport (unnoted report) (notedFrom 0 exporters) stop f position)
      (runExport report exporters stop f position)
      (exportCalls exporters.length (unread.rtake f.capacity)) := by
  have hloss : Notes (reportLoss (unnoted report) f.capacity unread)
      (reportLoss report f.capacity unread) [] := by
    rw [reportLoss, reportLoss]
    split
    · exact notes_pure ()
    · exact notes_unnoted report _
  have hflush : Notes (do flushAll (unnoted report) (notedFrom 0 exporters)
                          unnoted report exportStopped)
      (do flushAll report exporters; report exportStopped)
      (callEach 0 exporters.length .flush ++ []) :=
    (notes_flushAll report 0 exporters).bind fun _ => notes_unnoted report exportStopped
  rw [List.append_nil] at hflush
  rw [runExport_eq_kept h, runExport_eq_kept h]
  exact hloss.after fun _ =>
    (notes_forM (fun c => notes_dispatch report c 0 exporters) _).bind fun _ => hflush

/-! ## Handing over -/

/-- Does what there is to do next so many times. Gives how far it has got. -/
def exportTimes (report : LogLine → m Unit) (exporters : List (Exporter m)) (f : Feed Change) :
    Nat → Nat → m Nat
  | 0, position => pure position
  | times + 1, position => do
    exportTimes report exporters f times (← exportNext report exporters f position)

/-- An export that is made to stop after so many steps. -/
def runExportFor (report : LogLine → m Unit) (exporters : List (Exporter m)) (f : Feed Change)
    (times position : Nat) : m Unit := do
  let position ← exportTimes report exporters f times position
  let _ ← drainChanges report exporters f position
  flushAll report exporters
  report exportStopped

/-- Where nothing is found nobody gets on. -/
theorem Feed.eq_of_receiveFrom_empty {α : Type} {f : Feed α} {position after : Nat}
    (h : f.receiveFrom position = (.empty, after)) : after = position := by
  simp only [Feed.receiveFrom] at h
  split at h
  · cases h
  · split at h
    · cases h
    · exact (congrArg Prod.snd h).symm

/-- What is done next can be left to the one who delivers what is still there. -/
theorem exportNext_drainChanges :
    (do drainChanges report exporters f (← exportNext report exporters f position))
      = drainChanges report exporters f position := by
  conv_rhs => rw [drainChanges_eq_exportNext]
  rw [exportNext]
  rcases hfound : f.receiveFrom position with ⟨received, after⟩
  cases received with
  | message c => simp
  | lagged lost => simp
  | empty =>
    obtain rfl := Feed.eq_of_receiveFrom_empty hfound
    have hdone : drainChanges report exporters f after = _ := drainChanges_eq_exportNext
    rw [exportNext, hfound] at hdone
    simpa using hdone

theorem exportTimes_drainChanges (times : Nat) :
    (do drainChanges report exporters f (← exportTimes report exporters f times position))
      = drainChanges report exporters f position := by
  induction times generalizing position with
  | zero => rw [exportTimes, pure_bind]
  | succ times ih =>
    rw [exportTimes, bind_assoc]
    simp only [ih]
    exact exportNext_drainChanges

/-- It makes no difference after how many steps an export is made to stop. -/
theorem runExportFor_eq (h : f.UnreadFrom position unread) (times : Nat) :
    runExportFor report exporters f times position = (do
      reportLoss report f.capacity unread
      deliverAll report exporters (unread.rtake f.capacity)) := by
  rw [runExportFor, ← bind_assoc, exportTimes_drainChanges, drainChanges_eq_kept h]
  simp [deliverAll]

end

/-- Whoever has found nothing has not lost anything either. -/
theorem Describes.eq_nil {α : Type} {covered : List α} (h : Describes [] covered) : covered = [] := by
  generalize hnone : [] = answers at h
  cases h with
  | nothing => rfl
  | message | lagged | empty => exact absurd hnone.symm (List.concat_ne_nil _ _)

/-! ## Any export -/

/-- **Every exporter is called for all that is kept.** Of what has been published since the export
    subscribed some has been found already, and of the rest the newest are kept. However the export
    is made to stop, and whichever exporters fail, each exporter is called once for each of these
    changes in order, one exporter after another before the next change, and then each is flushed
    once. A loss is reported once, and nothing else comes of it. -/
theorem export_delivers (capacity : Nat) (steps : List RegistryStep) (name : String)
    {more : List RegistryStep} (hmore : ∀ s ∈ more, s.Keeps name) :
    let run := (RegistryRun.start (.new capacity)).steps steps
    let later := (RegistryRun.start (run.registry.subscribe name)).steps more
    let feed := later.registry.feed
    ∃ covered pending position, later.log = covered ++ pending ∧
      Describes (later.answersTo name) covered ∧ feed.position? name = some position ∧
      let kept := pending.rtake (feedCapacity capacity)
      (∀ {m : Type → Type} [Monad m] [LawfulMonad m] (report : LogLine → m Unit)
        (exporters : List (Exporter m)),
        (∀ stop, runExport report exporters stop feed position = (do
            reportLoss report (feedCapacity capacity) pending
            deliverAll report exporters kept)) ∧
        (∀ stop, Notes (runExport (unnoted report) (notedFrom 0 exporters) stop feed position)
          (runExport report exporters stop feed position) (exportCalls exporters.length kept)) ∧
        ∀ times stop, runExportFor report exporters feed times position
          = runExport report exporters stop feed position) ∧
      ∀ exporter count, exporter < count →
        tasksOf exporter (exportCalls count kept) = kept.map .deliver ++ [.flush] := by
  intro run later feed
  have hjoined : (RegistryRun.start (run.registry.subscribe name)).ToldBefore name [] :=
    ⟨run.registry.feed.hasUnread_subscribe name, [], rfl, .nothing⟩
  obtain ⟨pending, hpending, covered, hlog, hdescribes⟩ := hjoined.steps hmore
  obtain ⟨position, hposition, hunread⟩ := Feed.hasUnread_iff.1 hpending
  have hcapacity : feed.capacity = feedCapacity capacity :=
    (RegistryRun.capacity_steps (.start (run.registry.subscribe name)) more).trans
      (RegistryRun.capacity_steps (.start (.new capacity)) steps)
  refine ⟨covered, pending, position, hlog, hdescribes, hposition, ?_,
    fun exporter count h => tasksOf_exportCalls h _⟩
  intro m _ _ report exporters
  rw [← hcapacity]
  refine ⟨runExport_eq_kept hunread, notes_runExport hunread, fun times stop => ?_⟩
  rw [runExportFor_eq hunread, runExport_eq_kept hunread]

/-- There is room for two changes, and three are published. One of the exporters always fails. -/
theorem export_delivers_behind :
    let job (id : JobId) : Entry := { (default : Entry) with jobId := id }
    let more := [1, 2, 3].map fun id => RegistryStep.operate (.upsert (job id))
    let feed := ((RegistryRun.start ((Registry.new 2).subscribe "export")).steps more).registry.feed
    let exporters : List (Exporter Id) :=
      [⟨"Full", fun _ => pure (.error "full"), pure (.error "full")⟩,
        ⟨"Idle", fun _ => pure (.ok ()), pure (.ok ())⟩]
    (∀ s ∈ more, s.Keeps "export") ∧
      ((runExport (unnoted fun _ => pure ()) (notedFrom 0 exporters) .cancelled feed 0).run []).2
        = [⟨0, .deliver ⟨.added, job 2⟩⟩, ⟨1, .deliver ⟨.added, job 2⟩⟩,
          ⟨0, .deliver ⟨.added, job 3⟩⟩, ⟨1, .deliver ⟨.added, job 3⟩⟩, ⟨0, .flush⟩, ⟨1, .flush⟩] := by
  intro job more feed exporters
  have hmore : ∀ s ∈ more, s.Keeps "export" := by simp [more, RegistryStep.Keeps]
  obtain ⟨covered, pending, position, hlog, hdescribes, hposition, hexport, -⟩ :=
    export_delivers 2 [] "export" hmore
  obtain rfl : 0 = position := Option.some.inj hposition
  obtain rfl : covered = [] := hdescribes.eq_nil
  obtain rfl : [⟨.added, job 1⟩, ⟨.added, job 2⟩, ⟨.added, job 3⟩] = pending := hlog
  have hnoted := congrArg Prod.snd ((hexport (fun _ => pure ()) exporters).2.1 .cancelled [])
  exact ⟨hmore, hnoted.trans (by decide +kernel)⟩

end JobMonitor
