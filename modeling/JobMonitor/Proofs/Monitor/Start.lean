import JobMonitor.Monitor.Basic
import JobMonitor.Proofs.Channel.Pipe
import JobMonitor.Proofs.Export.Journal
import JobMonitor.Proofs.Job.Admission
import JobMonitor.Proofs.Registry.Sweep

set_option autoImplicit false

/-! # A monitor that has just been started

A monitor opens its channel and its journal, subscribes the export to its registry and launches its
program last. So the job of the program is the first change that the export has to read, and the
channel and the journal are where their paths lead. -/

namespace JobMonitor

variable {h h' : Host}

/-! ## The channel -/

theorem ChannelLock.keepsSound_acquire (channel : Path) :
    HostAttempt.KeepsSound (ChannelLock.acquire channel) := by
  refine (HostAttempt.keepsSound_makeParents _ _).bind fun _ => ?_
  refine (HostAttempt.keepsSound_findOrMake _ _).bind fun file => ?_
  intro h hsound
  rw [HostAttempt.runOn_node_bind]
  dsimp only
  split
  · exact hsound
  · split
    · exact hsound
    · exact hsound.modify file _

theorem keepsSound_ensureFifo (path : Path) : HostAttempt.KeepsSound (ensureFifo path) := by
  have hget : HostAttempt.KeepsSound (get : HostAttempt ChannelError Host) :=
    HostAttempt.keepsSound_of_files fun _ => rfl
  have hexpect : ∀ kind, HostAttempt.KeepsSound (expectFifo path kind) := by
    intro kind
    rw [expectFifo]
    split
    · exact HostAttempt.keepsSound_pure ()
    · exact HostAttempt.keepsSound_throw _
  refine hget.bind fun _ => ?_
  split
  · exact hexpect _
  · refine (HostAttempt.keepsSound_makeParents _ _).bind fun _ => ?_
    intro h hsound
    have hrun : HostAttempt.runOn (get : HostAttempt ChannelError Host) h = (.ok h, h) := rfl
    rw [HostAttempt.runOn_bind, hrun]
    dsimp only
    split
    · next files hmake => exact (Files.extends_of_make hmake).sound hsound
    · exact ((HostAttempt.keepsSound_ask _ _).bind hexpect) h hsound
    · exact hsound
  · exact HostAttempt.keepsSound_throw _

theorem ChannelReader.keepsSound_openAt (path : Path) (limit : Nat) :
    HostAttempt.KeepsSound (ChannelReader.openAt path limit) := by
  refine (keepsSound_ensureFifo path).bind fun _ => ?_
  refine (HostAttempt.keepsSound_ask _ _).bind fun file => ?_
  intro h hsound
  exact hsound.modify file _

theorem Listener.sound_of_bind {path : Path} {registry : Registry} {options : IngestOptions}
    {l : Listener} (hsound : h.files.Sound)
    (hok : HostAttempt.runOn (Listener.bind path registry options) h = (.ok l, h')) :
    h'.files.Sound := by
  obtain ⟨lock, h₁, hlock, hok⟩ := HostAttempt.exists_of_runOn_bind hok
  obtain ⟨reader, h₂, hopen, hok⟩ := HostAttempt.exists_of_runOn_bind hok
  have hlocked := ChannelLock.keepsSound_acquire path h hsound
  rw [hlock] at hlocked
  have hopened := ChannelReader.keepsSound_openAt path options.maxFrameBytes h₁ hlocked
  rw [HostAttempt.runOn_of_orElseDo hopen] at hopened
  rw [HostAttempt.runOn_say_bind, HostAttempt.runOn_pure] at hok
  obtain rfl := (Prod.mk.inj hok).2
  exact hopened

/-! ## The exporters -/

/-- With its error wrapped an attempt succeeds as it does without. -/
theorem HostAttempt.runOn_of_wrapError {ε δ α : Type} {wrap : ε → δ} {x : HostAttempt ε α} {a : α}
    (hok : HostAttempt.runOn (wrapError wrap x) h = (.ok a, h')) :
    HostAttempt.runOn x h = (.ok a, h') := by
  have hrun : HostAttempt.runOn (wrapError wrap x) h
      = ((HostAttempt.runOn x h).1.mapError wrap, (HostAttempt.runOn x h).2) := rfl
  rw [hrun] at hok
  rcases hx : HostAttempt.runOn x h with ⟨result, h''⟩
  rw [hx] at hok
  cases result with
  | ok b =>
    obtain ⟨hb, rfl⟩ := Prod.mk.inj hok
    rw [Except.ok.inj hb]
  | error e => cases congrArg Prod.fst hok

/-- A monitor with a journal exports to the log and to the file of the journal. -/
theorem of_openExporters {path : Path} {exporters : List (Exporter HostAction)}
    (hok : HostAttempt.runOn (openExporters (some path)) h = (.ok exporters, h')) :
    h.files.Extends h'.files ∧ ∃ file, (h.files.Sound → h'.files.find path = .ok file) ∧
      exporters = [logExporter Host.report, journalExporter path file] := by
  obtain ⟨file, h₁, hopen, hok⟩ := HostAttempt.exists_of_runOn_bind hok
  rw [HostAttempt.runOn_say_bind, HostAttempt.runOn_pure] at hok
  obtain ⟨hexporters, rfl⟩ := Prod.mk.inj hok
  obtain ⟨hextends, hfound⟩ := of_openJournal hopen
  exact ⟨hextends, file, hfound, (Except.ok.inj hexporters).symm⟩

/-! ## The launched program -/

/-- The entry of the job of a launched program. -/
def launchedEntry (pid : Pid) (now : Instant) : Entry := ⟨launchedJobId, [pid], now, now⟩

/-- What is put into the registry for a launched program. -/
def launchOps (launched : Option LaunchedProgram) (now : Instant) : List RegistryOp :=
  launched.toList.map fun p => .upsert (launchedEntry p.pid now)

/-- What is published for a launched program if its job is the first one. -/
def launchChanges (launched : Option LaunchedProgram) (now : Instant) : List Change :=
  launched.toList.map fun p => ⟨.added, launchedEntry p.pid now⟩

/-- The job of a program is an update with one process, so it is admitted whatever is registered, if a
    process can have the number. -/
theorem admit_launchSubmission (pid : Pid) (now : Instant) (isRegistered : Bool)
    (policy : DuplicatePolicy) : Submission.admit (launchSubmission pid now) isRegistered policy now
      = if 1 ≤ pid.toInt then .ok ⟨launchedEntry pid now, isRegistered⟩
        else .error (.invalidProcessId pid.toInt64) := by
  have hwide := Int32.toInt_toInt64 pid
  split
  · next hpositive =>
    have hpid : Pid.ofInt64? pid.toInt64 = some pid := Pid.ofInt64?_eq_some_iff.2 ⟨hpositive, hwide.symm⟩
    simp [launchSubmission, Submission.admit, admitPids, hpid, launchedEntry]
  · next hpositive =>
    have hpid : Pid.ofInt64? pid.toInt64 = none :=
      Option.eq_none_iff_forall_ne_some.2 fun number hsome =>
        hpositive (by have := Pid.ofInt64?_eq_some_iff.1 hsome; omega)
    simp [launchSubmission, Submission.admit, admitPids, hpid]

/-- Starting a program leaves the files and the clock. -/
theorem Host.of_spawn {ε : Type} {wrap : OsError → ε} {program : String} {arguments : List String}
    {spawned : Spawned}
    (hok : HostAttempt.runOn (Host.spawn wrap program arguments) h = (.ok spawned, h')) :
    h'.files = h.files ∧ h'.time = h.time := by
  have hget : HostAttempt.runOn (get : HostAttempt ε Host) h = (.ok h, h) := rfl
  rw [Host.spawn, HostAttempt.runOn_bind, hget] at hok
  dsimp only at hok
  cases hspawned : h.spawner ⟨program, arguments, h.files, h.bindings, h.process, h.processes⟩ with
  | error e =>
    rw [hspawned] at hok
    cases congrArg Prod.fst hok
  | ok s =>
    rw [hspawned] at hok
    obtain ⟨-, rfl⟩ := Prod.mk.inj hok
    cases s.process <;> exact ⟨rfl, rfl⟩

/-- Reporting the changes of an operation leaves the files and the clock. -/
theorem HostAttempt.runOn_reportChanges_bind {ε α : Type} (changes : List Change)
    (x : HostAttempt ε α) (h : Host) :
    HostAttempt.runOn (do changes.forM fun c => Host.report c.logLine; x) h
      = HostAttempt.runOn x { h with log := h.log ++ changes.map Change.logLine } := by
  induction changes generalizing h with
  | nil =>
    rw [List.map_nil, List.append_nil]
    rfl
  | cons c rest ih =>
    refine (ih (h.withLine c.logLine)).trans ?_
    rw [Host.withLine, List.map_cons, List.append_assoc]
    rfl

/-- Registering a program puts the entry of its job into the registry. -/
theorem of_registerLaunched {pid : Pid} {registry after : Registry}
    (hok : HostAttempt.runOn (registerLaunched pid registry) h = (.ok after, h')) :
    h'.files = h.files ∧ h'.time = h.time ∧
      after = (registry.upsert (launchedEntry pid h.time)).registry := by
  have hadmit := admit_launchSubmission pid h.time
    (registry.table.contains launchedJobId) .reject
  rw [registerLaunched, HostAttempt.runOn_now_bind] at hok
  dsimp only at hok
  rw [HostAttempt.runOn_now_bind, show (launchSubmission pid h.time).jobId = launchedJobId from rfl,
    hadmit] at hok
  split at hok
  · cases congrArg Prod.fst hok
  · next admitted hresult =>
    rw [HostAttempt.runOn_reportChanges_bind, HostAttempt.runOn_pure] at hok
    obtain ⟨hregistry, rfl⟩ := Prod.mk.inj hok
    obtain rfl := Except.ok.inj hregistry
    split at hresult
    · obtain rfl := Except.ok.inj hresult
      exact ⟨rfl, rfl, rfl⟩
    · cases hresult

theorem of_launchProgram {l : Launch} {registry after : Registry} {p : LaunchedProgram}
    (hok : HostAttempt.runOn (launchProgram l registry) h = (.ok (p, after), h')) :
    h'.files = h.files ∧ h'.time = h.time ∧
      after = (registry.upsert (launchedEntry p.pid h.time)).registry := by
  obtain ⟨spawned, h₁, hspawn, hok⟩ := HostAttempt.exists_of_runOn_bind hok
  obtain ⟨hfiles, htime⟩ := Host.of_spawn hspawn
  obtain ⟨pid, h₂, hpid, hok⟩ :=
    HostAttempt.exists_of_runOn_bind (HostAttempt.runOn_of_orElseDo hok)
  obtain rfl : h₁ = h₂ := congrArg Prod.snd hpid
  rw [HostAttempt.runOn_say_bind] at hok
  obtain ⟨registered, h₃, hregister, hok⟩ := HostAttempt.exists_of_runOn_bind hok
  rw [HostAttempt.runOn_pure] at hok
  obtain ⟨hresult, rfl⟩ := Prod.mk.inj hok
  obtain ⟨rfl, rfl⟩ := Prod.mk.inj (Except.ok.inj hresult)
  obtain ⟨hfiles', htime', rfl⟩ := of_registerLaunched hregister
  refine ⟨hfiles'.trans hfiles, htime'.trans htime, ?_⟩
  rw [← htime]
  rfl

theorem of_launchFor {launch : Option Launch} {registry after : Registry}
    {launched : Option LaunchedProgram} (hempty : registry.table = .empty)
    (hok : HostAttempt.runOn (launchFor launch registry) h = (.ok (launched, after), h')) :
    h'.files = h.files ∧ h'.time = h.time ∧ launched.isSome = launch.isSome ∧
      registry.performAll (launchOps launched h.time) = (after, launchChanges launched h.time) := by
  cases launch with
  | none =>
    rw [launchFor, HostAttempt.runOn_pure] at hok
    obtain ⟨hresult, rfl⟩ := Prod.mk.inj hok
    obtain ⟨rfl, rfl⟩ := Prod.mk.inj (Except.ok.inj hresult)
    exact ⟨rfl, rfl, rfl, rfl⟩
  | some l =>
    obtain ⟨⟨p, registered⟩, h₁, hlaunch, hok⟩ := HostAttempt.exists_of_runOn_bind hok
    rw [HostAttempt.runOn_pure] at hok
    obtain ⟨hresult, rfl⟩ := Prod.mk.inj hok
    obtain ⟨rfl, rfl⟩ := Prod.mk.inj (Except.ok.inj hresult)
    obtain ⟨hfiles, htime, rfl⟩ := of_launchProgram hlaunch
    refine ⟨hfiles, htime, rfl, ?_⟩
    -- In an empty table the job of the program replaces none.
    obtain ⟨table, feed⟩ := registry
    obtain rfl : table = .empty := hempty
    rfl

/-! ## All together -/

/-- A monitor that has just been started, with the export at the beginning of its feed. The one change
    that may have been published is that of the launched program. -/
structure Monitor.JustStarted (m : Monitor) (channel journal : Path) (h : Host) (file : FileId) :
    Prop where
  counts : m.listener.intake.counts = {}
  position : m.position = 0
  registry : (Registry.new.subscribe exportName).performAll (launchOps m.launched h.time)
    = (m.registry, launchChanges m.launched h.time)
  exporters : m.exporters = [logExporter Host.report, journalExporter journal file]
  channel : h.files.find channel = .ok m.listener.reader.file
  journal : h.files.find journal = .ok file
  there : file < h.files.nodes.length

namespace Monitor.JustStarted

variable {m : Monitor} {channel journal : Path} {file : FileId}

theorem feed (hm : m.JustStarted channel journal h file) :
    m.registry.feed = (Registry.new.subscribe exportName).feed.publishAll
      (launchChanges m.launched h.time) := by
  have hfeed := (Registry.new.subscribe exportName).feed_performAll (launchOps m.launched h.time)
  rwa [hm.registry] at hfeed

theorem replays (hm : m.JustStarted channel journal h file) :
    replay Contents.empty (launchChanges m.launched h.time) = m.registry.table.get? := by
  have hreplays := (Registry.new.subscribe exportName).performAll_replays
    (launchOps m.launched h.time)
  rw [hm.registry] at hreplays
  exact hreplays

end Monitor.JustStarted

theorem Monitor.justStarted {config : Config} {launch : Option Launch} {journal : Path} {m : Monitor}
    (hsound : h.files.Sound) (hjournal : config.exportFile = some journal)
    (hok : HostAttempt.runOn (Monitor.start config launch) h = (.ok m, h')) :
    m.launched.isSome = launch.isSome ∧ ∃ file, m.JustStarted config.channel journal h' file := by
  obtain ⟨listener, h₁, hbind, hok⟩ := HostAttempt.exists_of_runOn_bind hok
  have hbind := HostAttempt.runOn_of_wrapError hbind
  have hbound := Listener.sound_of_bind hsound hbind
  obtain ⟨-, -, hintake, hchannel⟩ := Listener.of_bind hbind
  obtain ⟨exporters, h₂, hopen, hok⟩ :=
    HostAttempt.exists_of_runOn_bind (HostAttempt.runOn_of_orElseDo hok)
  rw [hjournal] at hopen
  obtain ⟨hextends, file, hfound, hexporters⟩ :=
    of_openExporters (HostAttempt.runOn_of_wrapError hopen)
  obtain ⟨⟨launched, registry⟩, h₃, hlaunch, hok⟩ := HostAttempt.exists_of_runOn_bind hok
  have hempty : (listener.intake.registry.subscribe exportName).table = .empty := by rw [hintake]; rfl
  obtain ⟨hfiles, htime, hlaunched, hregistry⟩ :=
    of_launchFor hempty (HostAttempt.runOn_of_wrapError hlaunch)
  rw [HostAttempt.runOn_say_bind, HostAttempt.runOn_pure] at hok
  obtain ⟨hm, rfl⟩ := Prod.mk.inj hok
  obtain rfl := Except.ok.inj hm
  -- Launching touches no file, and opening the journal has moved none.
  have hfound : h₃.files.find journal = .ok file := by rw [hfiles, hfound hbound]
  refine ⟨hlaunched, file, ?_⟩
  constructor
  · show listener.intake.counts = {}
    rw [hintake]
  · show ((listener.intake.registry.subscribe exportName).feed.position? exportName).getD 0 = 0
    rw [hintake]
    rfl
  · rw [hintake, ← htime] at hregistry
    exact hregistry
  · exact hexporters
  · show h₃.files.find config.channel = _
    rw [hfiles]
    exact hextends.find hbound hchannel
  · exact hfound
  · exact Files.lt_length_of_find (hfiles ▸ hextends.sound hbound) hfound

end JobMonitor
