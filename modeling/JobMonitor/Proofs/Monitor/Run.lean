import JobMonitor.Proofs.Monitor.Start
import JobMonitor.Proofs.Monitor.Turn

set_option autoImplicit false

/-! # A monitor from its start to its end

While a monitor runs, what its journal holds and what is still to be exported make up all that has
been changed in its registry since it was started, the job of its program first
(`MonitorRun.Accounted`). When it stops it ends what it has in hand, nothing is taken in any more and the
rest is exported. So the journal holds every change, and agrees with the counts and with the registry that
the monitor leaves (`monitor_journal_complete`). -/

namespace JobMonitor

/-! ## Runs -/

/-- How far a monitor has got. -/
structure MonitorRun where
  monitor : Monitor
  host : Host
  /-- What has been changed in the registry, oldest first. -/
  changes : List Change := []

/-- What a monitor does with a frame that it has in hand when it stops. -/
def settling : List MonitorEvent := [.judges, .registers]

namespace MonitorRun

/-- The run after one more turn. -/
def turn (run : MonitorRun) (e : MonitorEvent) : MonitorRun :=
  let (monitor, host) := (run.monitor.step e).run run.host
  ⟨monitor, host, run.changes ++ run.monitor.changesIn run.host e⟩

/-- The run after more turns. -/
def turns (run : MonitorRun) (events : List MonitorEvent) : MonitorRun := events.foldl turn run

theorem turns_append (run : MonitorRun) (events more : List MonitorEvent) :
    run.turns (events ++ more) = (run.turns events).turns more := List.foldl_append

/-- The export of the monitor. -/
def exporting (run : MonitorRun) : ExportRun :=
  ⟨run.monitor.registry.feed, run.monitor.position, run.host⟩

/-- What the monitor leaves when it has nothing in hand, and the host after it. -/
def leave (run : MonitorRun) (isCancelled : Bool) : MonitorExit × Host :=
  (run.monitor.leave isCancelled).run run.host

end MonitorRun

/-- A monitor takes a turn for each event, ends what it has in hand, and is left. -/
theorem Monitor.run_eq_turns (m : Monitor) (events : List MonitorEvent) (isCancelled : Bool)
    (h : Host) : (m.run events isCancelled).run h
      = let run := (MonitorRun.mk m h []).turns (events ++ settling)
        (((run.leave isCancelled).1, run.monitor), (run.leave isCancelled).2) := by
  have hevents : ∀ run : MonitorRun, (events.foldlM Monitor.step run.monitor).run run.host
      = ((run.turns events).monitor, (run.turns events).host) := by
    induction events with
    | nil => exact fun _ => rfl
    | cons e rest ih => exact fun run => ih (run.turn e)
  rw [Monitor.run, StateT.run_bind, hevents ⟨m, h, []⟩, MonitorRun.turns_append]
  rfl

/-! ## What a run keeps -/

namespace MonitorRun

variable {start run : MonitorRun} {journal : Path} {file : FileId}

/-- A turn of the export takes from what is to be exported what it records, and any other turn adds
    to it what it changes. -/
theorem advances_turn (hfile : run.monitor.ExportsTo journal file) (hpace : run.exporting.KeepsUp)
    (e : MonitorEvent) :
    run.exporting.Advances (run.turn e).exporting file (run.monitor.changesIn run.host e) := by
  cases he : e.isExport with
  | false =>
    -- The file stays, and what the turn changes has been published.
    have hproceeds := run.monitor.proceeds_step he run.host
    have hexporting : (run.turn e).exporting = ⟨run.exporting.feed.publishAll
        (run.monitor.changesIn run.host e), run.exporting.position, (run.turn e).host⟩ := by
      rw [exporting, exporting, ← hproceeds.feed, ← hproceeds.position]
      rfl
    rw [hexporting]
    exact ExportRun.advances_publishAll
      (fun _ hholds => (Monitor.records_step he hfile.apart).holds hholds) _
  | true =>
    rcases MonitorEvent.eq_of_isExport he with rfl | rfl
    · -- All that is to be exported is recorded at once.
      intro bytes unread h
      have hroom := h.room hpace
      obtain ⟨records, hrecorded, hholds⟩ :=
        hfile.journal.records_drainChanges h.unread hroom run.host bytes h.holds
      have hposition : ((drainChanges Host.report run.monitor.exporters run.exporting.feed
          run.exporting.position).run run.host).1 = run.exporting.feed.published := by
        rw [drainChanges_eq h.unread hroom]
        rfl
      have hnone := run.exporting.feed.unreadFrom_published
      rw [← hposition] at hnone
      refine ⟨records, [], ?_, h.subscribed, hnone, hholds⟩
      rw [hrecorded]
      rfl
    · exact ExportRun.advances_exports hfile.journal hpace

/-- The changes of the run are those that its registry has published since `start` and that its export
    has been given to export. -/
structure Accounted (start run : MonitorRun) (file : FileId) : Prop where
  follows : start.monitor.Follows run.monitor run.changes
  advances : start.exporting.Advances run.exporting file run.changes

theorem Accounted.turn (h : start.Accounted run file) (hfile : start.monitor.ExportsTo journal file)
    (hpace : run.exporting.KeepsUp) (e : MonitorEvent) : start.Accounted (run.turn e) file where
  follows := h.follows.trans (run.monitor.follows_step e run.host)
  advances := h.advances.trans (advances_turn (h.follows.exportsTo hfile) hpace e)

theorem Accounted.turns (h : start.Accounted run file)
    (hfile : start.monitor.ExportsTo journal file) {events : List MonitorEvent}
    (hpace : ∀ sofar, sofar <+: events → (run.turns sofar).exporting.KeepsUp) :
    start.Accounted (run.turns events) file := by
  induction events generalizing run with
  | nil => exact h
  | cons e rest ih =>
    have hturn := h.turn hfile (hpace [] List.nil_prefix) e
    exact ih hturn fun sofar hsofar => hpace (e :: sofar) (List.cons_prefix_cons.2 ⟨rfl, hsofar⟩)

/-- When the monitor is left the file has a record of all that there was to export and of all changes
    since, and all of it has been written. -/
theorem Accounted.leave (h : start.Accounted run file)
    (hfile : start.monitor.ExportsTo journal file) (hpace : run.exporting.KeepsUp)
    {previous : Bytes} {initial : List Change}
    (hstart : start.exporting.Journals file previous initial) (isCancelled : Bool) :
    ∃ records : List ExportRecord, records.map (·.change) = initial ++ run.changes ∧
      ((run.leave isCancelled).2.files.node file).bytes
        = previous ++ records.flatMap ExportRecord.line ∧
      ((run.leave isCancelled).2.files.node file).unwritten = [] := by
  -- What has been recorded so far, and then what is recorded at the end.
  obtain ⟨records, left, hrecorded, hrun⟩ := h.advances previous initial hstart
  obtain ⟨records', hrest, hholds, hwritten⟩ :=
    Monitor.completes_leave (h.follows.exportsTo hfile) hrun.unread (hrun.room hpace) isCancelled
      run.host _ hrun.holds
  refine ⟨records ++ records', ?_, ?_, hwritten⟩
  · rw [List.map_append, hrest, hrecorded]
  · rw [List.flatMap_append, ← List.append_assoc]
    exact hholds.bytes hwritten

end MonitorRun

/-! ## From the start -/

theorem countOf_launchChanges (launched : Option LaunchedProgram) (now : Instant) :
    countOf .added (launchChanges launched now) = (if launched.isSome then 1 else 0) ∧
      countOf .updated (launchChanges launched now) = 0 := by
  cases launched <;> exact ⟨rfl, rfl⟩

/-- A monitor that has just been started has the job of its program to export, if it has one. -/
theorem Monitor.JustStarted.journals {m : Monitor} {channel journal : Path} {h : Host}
    {file : FileId} (hm : m.JustStarted channel journal h file)
    (htaken : (h.files.node file).refusal = none) :
    (MonitorRun.mk m h []).exporting.Journals file (h.files.node file).content
      (launchChanges m.launched h.time) := by
  have hsubscribed : (Registry.new.subscribe exportName).feed.subscribers ≠ [] :=
    List.cons_ne_nil _ _
  have hbegin : (Registry.new.subscribe exportName).feed.UnreadFrom 0 [] :=
    Feed.unreadFrom_published _
  rw [MonitorRun.exporting, hm.position, hm.feed]
  refine ⟨?_, hbegin.publishAll hsubscribed _, hm.there, htaken, rfl⟩
  rwa [Feed.subscribers_publishAll]

theorem Monitor.JustStarted.exportsTo {m : Monitor} {channel journal : Path} {h : Host}
    {file : FileId} (hm : m.JustStarted channel journal h file)
    (hapart : h.files.find journal ≠ h.files.find channel) : m.ExportsTo journal file := by
  constructor
  · rw [hm.exporters]
    exact hasJournal_log_journal journal file
  · intro hsame
    rw [hm.journal, hm.channel, hsame] at hapart
    exact hapart rfl

/-- **The journal of a monitor is complete.** A monitor is started with a journal that is not its
    channel and takes what is added to it. It takes any turns, with never more outstanding than its feed
    has room for, and is stopped. A submission is judged in one turn and registered in another, and jobs
    may be removed in between. Then the journal holds what it held before and a line for each change since
    the export was subscribed, in the order in which they were published: that of the launched program
    before all that has been changed in a turn. Nothing is left to be written. There are as many records of
    new jobs as submissions have been accepted, and one more if a program has been launched, and as many
    records of replaced jobs as submissions have been counted so. The records lead from the empty table to
    the one that is left. -/
theorem monitor_journal_complete {config : Config} {launch : Option Launch} {journal : Path}
    {host host' : Host} {m : Monitor} {events : List MonitorEvent} (isCancelled : Bool)
    (hsound : host.files.Sound) (hjournal : config.exportFile = some journal)
    (hstart : HostAttempt.runOn (Monitor.start config launch) host = (.ok m, host'))
    (hapart : host'.files.find journal ≠ host'.files.find config.channel)
    (htaken : ∀ file, host'.files.find journal = .ok file → (host'.files.node file).refusal = none)
    (hpace : ∀ sofar, sofar <+: events ++ settling →
      ((MonitorRun.mk m host' []).turns sofar).exporting.KeepsUp) :
    let run := (MonitorRun.mk m host' []).turns (events ++ settling)
    let exit := ((m.run events isCancelled).run host').1.1
    let final := ((m.run events isCancelled).run host').1.2
    let after := ((m.run events isCancelled).run host').2
    m.launched.isSome = launch.isSome ∧
      ∃ file records, host'.files.find journal = .ok file ∧
        JournalOf (host'.files.node file).content (after.files.node file).bytes records ∧
        (after.files.node file).unwritten = [] ∧
        records.map (·.change) = launchChanges m.launched host'.time ++ run.changes ∧
        final.registry.feed
          = (Registry.new.subscribe exportName).feed.publishAll (records.map (·.change)) ∧
        countOf .added (records.map (·.change))
          = exit.counts.accepted + (if launch.isSome then 1 else 0) ∧
        countOf .updated (records.map (·.change)) = exit.counts.updated ∧
        replay Contents.empty (records.map (·.change)) = final.registry.table.get? := by
  rw [m.run_eq_turns]
  intro run exit final after
  obtain ⟨hlaunched, file, hm⟩ := Monitor.justStarted hsound hjournal hstart
  have hfile : m.ExportsTo journal file := hm.exportsTo hapart
  have hstarted : (MonitorRun.mk m host' []).Accounted ⟨m, host', []⟩ file :=
    ⟨.refl m, .refl _ file⟩
  have hrun : (MonitorRun.mk m host' []).Accounted run file :=
    hstarted.turns hfile hpace
  obtain ⟨records, hrecords, hbytes, hwritten⟩ := hrun.leave hfile
    (hpace _ List.prefix_rfl) (hm.journals (htaken file hm.journal)) isCancelled
  -- The launched program has been added without being counted.
  obtain ⟨hlaunchAdded, hlaunchUpdated⟩ := countOf_launchChanges m.launched host'.time
  have haccepted : exit.counts.accepted = countOf .added run.changes := by
    refine hrun.follows.accepted.trans ?_
    rw [hm.counts]
    exact Nat.zero_add _
  have hupdated : exit.counts.updated = countOf .updated run.changes := by
    refine hrun.follows.updated.trans ?_
    rw [hm.counts]
    exact Nat.zero_add _
  refine ⟨hlaunched, file, records, hm.journal, ?_, hwritten, hrecords, ?_, ?_, ?_, ?_⟩
  · rw [show (after.files.node file).bytes = _ from hbytes]
    exact journalOf_records _ _
  · rw [hrecords, show final.registry.feed = _ from hrun.follows.feed]
    show m.registry.feed.publishAll run.changes = _
    rw [hm.feed]
    exact List.foldl_append.symm
  · rw [hrecords, countOf_append, hlaunchAdded, hlaunched, haccepted]
    exact Nat.add_comm _ _
  · rw [hrecords, countOf_append, hlaunchUpdated, hupdated]
    exact Nat.zero_add _
  · rw [hrecords, replay_append, hm.replays]
    exact hrun.follows.replays

/-- A job is submitted. It is submitted again as an update, and is finished and removed after the update has
    been judged and before it is registered. -/
def oneJobIsReplacedTooLate : List MonitorEvent :=
  [.arrives ((Submission.mk 7 [20] (.valid .epoch) false).toRecord.bytes ++ [newline]),
    .reads, .judges, .registers, .exportsNext,
    .arrives ((Submission.mk 7 [21] (.valid .epoch) true).toRecord.bytes ++ [newline]),
    .reads, .judges, .removes 7, .writes]

/-- A machine on which one program starts. -/
def oneProgramStarts : Host := { spawner := fun _ => .ok ⟨some 2, ⟨some 0, .exited 0, []⟩⟩ }

/-- A program is launched, and beside it a job is removed before it would have been replaced. It is
    counted as new once more. -/
theorem monitor_journal_complete_one_job :
    ∃ m host' file records,
      HostAttempt.runOn (Monitor.start { channel := "jobs.fifo", exportFile := some "jobs.jsonl" }
        (some ⟨"true", [], none⟩)) oneProgramStarts = (.ok m, host') ∧
      host'.files.find "jobs.jsonl" = .ok file ∧
      let ended := (m.run oneJobIsReplacedTooLate true).run host'
      JournalOf (host'.files.node file).content (ended.2.files.node file).bytes records ∧
        records.map (fun r => (r.change.kind, r.change.entry.jobId))
          = [(.added, 1), (.added, 7), (.removed, 7), (.added, 7)] ∧
        ended.1.1.counts.accepted = 2 ∧ ended.1.1.counts.updated = 0 := by
  obtain ⟨m, host', hstart, hapart, ⟨journal, hfound, htaken⟩, hpace, hchanges, hcounts⟩ : ∃ m host',
      HostAttempt.runOn (Monitor.start { channel := "jobs.fifo", exportFile := some "jobs.jsonl" }
        (some ⟨"true", [], none⟩)) oneProgramStarts = (.ok m, host') ∧
      host'.files.find "jobs.jsonl" ≠ host'.files.find "jobs.fifo" ∧
      (∃ file, host'.files.find "jobs.jsonl" = .ok file ∧ (host'.files.node file).refusal = none) ∧
      (∀ sofar ∈ (oneJobIsReplacedTooLate ++ settling).inits,
        ((MonitorRun.mk m host' []).turns sofar).exporting.KeepsUp) ∧
      (launchChanges m.launched host'.time
          ++ ((MonitorRun.mk m host' []).turns (oneJobIsReplacedTooLate ++ settling)).changes).map
          (fun c => (c.kind, c.entry.jobId)) = [(.added, 1), (.added, 7), (.removed, 7), (.added, 7)] ∧
      ((m.run oneJobIsReplacedTooLate true).run host').1.1.counts.accepted = 2 ∧
      ((m.run oneJobIsReplacedTooLate true).run host').1.1.counts.updated = 0 :=
    ⟨_, _, rfl, by decide +kernel, ⟨3, by decide +kernel, by decide +kernel⟩, by decide +kernel,
      by decide +kernel, by decide +kernel⟩
  have hsound : Files.empty.Sound := Files.sound_of_forall (by decide)
  obtain ⟨-, file, records, hfile, hjournal, -, hrecords, -⟩ :=
    monitor_journal_complete true hsound rfl hstart hapart
      (fun file hfind => Except.ok.inj (hfound.symm.trans hfind) ▸ htaken)
      fun sofar hsofar => hpace sofar ((List.mem_inits _ _).2 hsofar)
  refine ⟨m, host', file, records, hstart, hfile, hjournal, ?_, hcounts⟩
  rw [← hchanges, ← hrecords, List.map_map]
  rfl

end JobMonitor
