import JobMonitor.Proofs.Export.Journal
import JobMonitor.Proofs.Registry.Sweep
import Mathlib.Data.List.Infix

set_option autoImplicit false

/-! # An export under way

Changes are published while an export is under way, and the export takes them from the feed in its
own time. As long as the feed has room for all that is outstanding, what the journal has got and what is
still to be exported make up all that has been published (`ExportRun.Advances`), so that in the end
the journal holds all of it (`journal_faithful`). -/

namespace JobMonitor

/-! ## Steps -/

/-- What happens while an export is under way: a change is published, the clock goes on, the host writes
    what has been handed over, or the export does what it does next. -/
inductive ExportStep where
  | publishes (c : Change)
  | clock (now : Instant)
  | writes
  | exports

/-- How far an export has got. -/
structure ExportRun where
  feed : Feed Change
  position : Nat
  host : Host

/-- The export after one more step. -/
def ExportRun.step (exporters : List (Exporter HostAction)) (run : ExportRun) :
    ExportStep → ExportRun
  | .publishes c => { run with feed := run.feed.publish c }
  | .clock time => { run with host := { run.host with time } }
  | .writes => { run with host := (Host.writeAll.run run.host).2 }
  | .exports =>
    let (position, host) := (exportNext Host.report exporters run.feed run.position).run run.host
    { run with position, host }

/-- The export after more steps. -/
def ExportRun.steps (exporters : List (Exporter HostAction)) (run : ExportRun)
    (steps : List ExportStep) : ExportRun :=
  steps.foldl (ExportRun.step exporters) run

/-- What is published in the steps, in order. -/
def publishedIn (steps : List ExportStep) : List Change :=
  steps.filterMap fun
    | .publishes c => some c
    | _ => none

/-- The feed has room for all that is outstanding. -/
def ExportRun.KeepsUp (run : ExportRun) : Prop :=
  run.feed.published - run.position ≤ run.feed.capacity

instance (run : ExportRun) : Decidable run.KeepsUp := inferInstanceAs (Decidable (_ ≤ _))

/-! ## How far the journal is behind -/

/-- The file will hold the bytes when all that has been handed over has been written, and the changes are
    still to be exported. -/
structure ExportRun.Journals (run : ExportRun) (file : FileId) (bytes : Bytes)
    (unread : List Change) : Prop where
  subscribed : run.feed.subscribers ≠ []
  unread : run.feed.UnreadFrom run.position unread
  holds : run.host.Holds file bytes

/-- An export later on. What has been published in between is to be exported too, and what has been
    recorded in the file comes off all that is to be exported. -/
def ExportRun.Advances (run later : ExportRun) (file : FileId) (published : List Change) : Prop :=
  ∀ bytes unread, run.Journals file bytes unread →
    ∃ (records : List ExportRecord) (left : List Change),
      records.map (·.change) ++ left = unread ++ published ∧
        later.Journals file (bytes ++ records.flatMap ExportRecord.line) left

namespace ExportRun

variable {exporters : List (Exporter HostAction)} {run later : ExportRun} {file : FileId}
  {path : Path} {bytes : Bytes} {unread published more : List Change}

theorem Journals.room (h : run.Journals file bytes unread) (hpace : run.KeepsUp) :
    unread.length ≤ run.feed.capacity := by
  have := h.unread.behind
  rw [KeepsUp] at hpace
  omega

theorem Advances.refl (run : ExportRun) (file : FileId) : run.Advances run file [] := by
  intro bytes unread h
  refine ⟨[], unread, (List.append_nil unread).symm, ?_⟩
  rw [List.flatMap_nil, List.append_nil]
  exact h

theorem Advances.trans {latest : ExportRun} (h : run.Advances later file published)
    (h' : later.Advances latest file more) : run.Advances latest file (published ++ more) := by
  intro bytes unread hjournals
  obtain ⟨records, left, hleft, hlater⟩ := h bytes unread hjournals
  obtain ⟨records', left', hleft', hlatest⟩ := h' _ left hlater
  refine ⟨records ++ records', left', ?_, ?_⟩
  · rw [List.map_append, List.append_assoc, hleft', ← List.append_assoc, hleft, List.append_assoc]
  · rw [List.flatMap_append, ← List.append_assoc]
    exact hlatest

/-- Publishing adds to what is to be exported, whatever else happens on the host that leaves the file
    as it is. -/
theorem advances_publishAll {host : Host}
    (hholds : ∀ bytes, run.host.Holds file bytes → host.Holds file bytes) (changes : List Change) :
    run.Advances ⟨run.feed.publishAll changes, run.position, host⟩ file changes := by
  intro bytes unread h
  refine ⟨[], unread ++ changes, rfl, ?_, h.unread.publishAll h.subscribed changes, ?_⟩
  · show (run.feed.publishAll changes).subscribers ≠ []
    rw [run.feed.subscribers_publishAll]
    exact h.subscribed
  · rw [List.flatMap_nil, List.append_nil]
    exact hholds bytes h.holds

/-- The first change that is to be exported is recorded. -/
theorem advances_exports (hexporters : HasJournal exporters path file) (hpace : run.KeepsUp) :
    run.Advances (run.step exporters .exports) file [] := by
  intro bytes unread h
  have hroom := h.room hpace
  obtain ⟨records, hrecords, hafter⟩ :=
    hexporters.records_exportNext h.unread hroom run.host bytes h.holds
  have hposition : ((exportNext Host.report exporters run.feed run.position).run run.host).1
      = (run.feed.receiveFrom run.position).2 := by
    rw [exportNext_eq h.unread hroom]
    rfl
  have hunread := (h.unread.receiveFrom hroom).2
  rw [← hposition] at hunread
  refine ⟨records, unread.tail, ?_, h.subscribed, hunread, hafter⟩
  rw [hrecords]
  cases unread <;> simp

theorem advances_step (hexporters : HasJournal exporters path file) (hpace : run.KeepsUp)
    (s : ExportStep) : run.Advances (run.step exporters s) file (publishedIn [s]) := by
  cases s with
  | publishes c => exact advances_publishAll (fun _ hholds => hholds) [c]
  | clock now =>
    have hclock : ∀ bytes, run.host.Holds file bytes →
        ({ run.host with time := now } : Host).Holds file bytes :=
      fun _ hholds => ⟨hholds.there, hholds.taken, hholds.content⟩
    exact advances_publishAll hclock []
  | writes =>
    exact advances_publishAll (fun _ hholds => HostAction.records_writeAll.holds hholds) []
  | exports => exact advances_exports hexporters hpace

theorem advances_steps (hexporters : HasJournal exporters path file) {steps : List ExportStep}
    (hpace : ∀ sofar, sofar <+: steps → (run.steps exporters sofar).KeepsUp) :
    run.Advances (run.steps exporters steps) file (publishedIn steps) := by
  induction steps generalizing run with
  | nil => exact .refl run file
  | cons s rest ih =>
    have hpublished : publishedIn (s :: rest) = publishedIn [s] ++ publishedIn rest := by
      rw [publishedIn, ← List.singleton_append, List.filterMap_append]
      rfl
    rw [hpublished]
    exact (advances_step hexporters (hpace [] List.nil_prefix) s).trans <| ih fun sofar hsofar =>
      hpace (s :: sofar) (List.cons_prefix_cons.2 ⟨rfl, hsofar⟩)

end ExportRun

/-! ## Any export -/

/-- An export that begins where somebody has just subscribed. -/
def ExportRun.start (feed : Feed Change) (host : Host) : ExportRun := ⟨feed, feed.published, host⟩

theorem ExportRun.feed_steps (exporters : List (Exporter HostAction)) (run : ExportRun)
    (steps : List ExportStep) :
    (run.steps exporters steps).feed = run.feed.publishAll (publishedIn steps) := by
  induction steps generalizing run with
  | nil => rfl
  | cons s rest ih =>
    have hrest := ih (run.step exporters s)
    cases s <;> exact hrest

/-- **The journal is faithful.** Somebody has subscribed to an empty registry for exporters that have
    a journal among them, and what the registry publishes is exported in whatever rhythm, with never
    more outstanding than the feed has room for. The file does not refuse what is added to it. When the
    export has ended the file holds what it held when it was opened, and a line for each change in the order
    in which they were published: a record without line breaks that is read back as the change. Nothing is
    left to be written. The changes that are read back lead from the empty table to the final one. -/
theorem journal_faithful (capacity : Nat) (name : String) (ops : List RegistryOp) {path : Path}
    {file : FileId} {host host' : Host} {exporters : List (Exporter HostAction)}
    {steps : List ExportStep} (stop : ExportStop) (hsound : host.files.Sound)
    (htaken : (host.files.node file).refusal = none)
    (hopen : HostAttempt.runOn (openJournal path) host = (.ok file, host'))
    (hexporters : HasJournal exporters path file)
    (hsteps : publishedIn steps = (((Registry.new capacity).subscribe name).performAll ops).2)
    (hpace : ∀ sofar, sofar <+: steps →
      ((ExportRun.start ((Registry.new capacity).subscribe name).feed host').steps exporters
        sofar).KeepsUp) :
    let final := (((Registry.new capacity).subscribe name).performAll ops).1
    let run := (ExportRun.start ((Registry.new capacity).subscribe name).feed host').steps exporters
      steps
    let exit := ((runExport Host.report exporters stop run.feed run.position).run run.host).2
    run.feed = final.feed ∧ host'.files.find path = .ok file ∧
      ∃ records, records.map (·.change) = publishedIn steps ∧
        JournalOf (host.files.node file).content (exit.files.node file).bytes records ∧
        replay Contents.empty (records.map (·.change)) = final.table.get? := by
  intro final run exit
  have hfound := (of_openJournal hopen).2 hsound
  have hholds := openJournal_holds hsound htaken hopen
  have hstart : (ExportRun.start ((Registry.new capacity).subscribe name).feed host').Journals file
      (host.files.node file).content [] :=
    ⟨List.cons_ne_nil _ _, Feed.unreadFrom_published _, hholds⟩
  obtain ⟨records, left, hleft, hrun⟩ := ExportRun.advances_steps hexporters hpace _ _ hstart
  have hroom := hrun.room (hpace steps List.prefix_rfl)
  -- What has not been recorded when the last step has been taken is recorded at the end.
  obtain ⟨records', hrecords', hexit, hwritten⟩ :=
    hexporters.completes_runExport hrun.unread hroom stop run.host _ hrun.holds
  have hchanges : (records ++ records').map (·.change) = publishedIn steps := by
    rw [List.map_append, hrecords', hleft, List.nil_append]
  refine ⟨?_, hfound, records ++ records', hchanges, ?_, ?_⟩
  · rw [Registry.feed_performAll, ← hsteps]
    exact ExportRun.feed_steps exporters _ steps
  · rw [hexit.bytes hwritten, List.append_assoc, ← List.flatMap_append]
    exact journalOf_records _ _
  · rw [hchanges, hsteps]
    exact ((Registry.new capacity).subscribe name).performAll_replays ops

/-- A job comes and goes while there is room for one change. -/
theorem journal_faithful_line :
    let job : Entry := { (default : Entry) with jobId := 7 }
    let files : Files :=
      ⟨[{ kind := .directory }, { kind := .regular, bytes := [newline] }],
        [(["jobs.jsonl"], 1), ([], 0)], []⟩
    let steps : List ExportStep := [.publishes ⟨.added, job⟩, .exports, .publishes ⟨.removed, job⟩]
    ∃ host' records, HostAttempt.runOn (openJournal "jobs.jsonl") { files } = (.ok 1, host') ∧
      let run := (ExportRun.start ((Registry.new 1).subscribe "export").feed host').steps
        [logExporter Host.report, journalExporter "jobs.jsonl" 1] steps
      let exit := ((runExport Host.report [logExporter Host.report, journalExporter "jobs.jsonl" 1] .cancelled
        run.feed run.position).run run.host).2
      JournalOf [newline] (exit.files.node 1).bytes records ∧
        records.map (·.change) = [⟨.added, job⟩, ⟨.removed, job⟩] := by
  intro job files steps
  have hsound : files.Sound := Files.sound_of_forall (by decide)
  obtain ⟨host', hopen, hpace⟩ : ∃ host',
      HostAttempt.runOn (openJournal "jobs.jsonl") { files } = (.ok 1, host') ∧
      ∀ sofar ∈ steps.inits, ((ExportRun.start ((Registry.new 1).subscribe "export").feed
        host').steps [logExporter Host.report, journalExporter "jobs.jsonl" 1] sofar).KeepsUp :=
    ⟨_, rfl, by decide +kernel⟩
  have hsteps : publishedIn steps
      = (((Registry.new 1).subscribe "export").performAll [.upsert job, .remove 7]).2 := by
    decide +kernel
  obtain ⟨-, -, records, hchanges, hjournal, -⟩ := journal_faithful 1 "export"
    [.upsert job, .remove 7] .cancelled hsound rfl hopen (hasJournal_log_journal "jobs.jsonl" 1) hsteps
    fun sofar hsofar => hpace sofar ((List.mem_inits _ _).2 hsofar)
  exact ⟨host', records, hopen, hjournal, hchanges⟩

end JobMonitor
