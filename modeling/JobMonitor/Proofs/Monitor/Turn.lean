import JobMonitor.Monitor.Basic
import JobMonitor.Proofs.Export.Run
import JobMonitor.Proofs.Ingest.Accounting

set_option autoImplicit false

/-! # What a monitor does in one turn

The activities of a monitor are interleaved in small turns: a submission is judged in one turn and
registered in another, a sweep may be interrupted between two removals, and an export between two changes.
Whatever a turn does to the registry is operations that publish what the turn changes, and the counts go
with it (`Monitor.Follows`). All turns but those of the export leave the journal as it is.

What a registration replaces is found out when it is made. A job that is removed after its submission has
been judged is therefore counted as new, as it is published, whatever was found when it was judged. If
nothing happens in between, the turns do what the intake does with a frame in one go
(`Monitor.run_takeIn`). -/

namespace JobMonitor

/-! ## Turns -/

/-- What is changed in the registry when something happens. -/
def Monitor.changesIn (m : Monitor) (h : Host) : MonitorEvent → List Change
  | .registers =>
    match m.inHand with
    | .admitted a => (m.listener.intake.register a.entry).changes
    | _ => []
  | .removes id =>
    if m.isSweeping then ((m.registry.removeFinished hostProbe id).run h).1.changes else []
  | .sweeps =>
    if m.isSweeping then ((m.registry.sweep hostProbe).run h).1.1.map (⟨.removed, ·⟩) else []
  | _ => []

/-- The turn is one of the export. -/
def MonitorEvent.isExport : MonitorEvent → Bool
  | .exports | .exportsNext => true
  | _ => false

theorem MonitorEvent.eq_of_isExport {e : MonitorEvent} (h : e.isExport = true) :
    e = .exports ∨ e = .exportsNext := by
  cases e with
  | exports => exact .inl rfl
  | exportsNext => exact .inr rfl
  | _ => cases h

/-! ## The registry and the counts -/

/-- A monitor later on. Operations on its registry have published the changes, and its counts have grown
    by the new and the replaced jobs among them. What it works with has stayed. -/
structure Monitor.Follows (m later : Monitor) (changes : List Change) : Prop where
  registry : ∃ ops, m.registry.performAll ops = (later.registry, changes)
  accepted : later.listener.intake.counts.accepted
    = m.listener.intake.counts.accepted + countOf .added changes
  updated : later.listener.intake.counts.updated
    = m.listener.intake.counts.updated + countOf .updated changes
  exporters : later.exporters = m.exporters
  launched : later.launched = m.launched
  channel : later.listener.reader.file = m.listener.reader.file

/-- A monitor later on that has exported nothing in between. -/
structure Monitor.Proceeds (m later : Monitor) (changes : List Change) : Prop
    extends m.Follows later changes where
  position : later.position = m.position

namespace Monitor

variable {m later : Monitor} {changes more : List Change}

theorem Follows.refl (m : Monitor) : m.Follows m [] := ⟨⟨[], rfl⟩, rfl, rfl, rfl, rfl, rfl⟩

theorem Follows.trans {latest : Monitor} (h : m.Follows later changes)
    (h' : later.Follows latest more) : m.Follows latest (changes ++ more) := by
  obtain ⟨ops, hops⟩ := h.registry
  obtain ⟨ops', hops'⟩ := h'.registry
  constructor
  · refine ⟨ops ++ ops', ?_⟩
    rw [Registry.performAll_append, hops, hops']
  · rw [h'.accepted, h.accepted, countOf_append, Nat.add_assoc]
  · rw [h'.updated, h.updated, countOf_append, Nat.add_assoc]
  · exact h'.exporters.trans h.exporters
  · exact h'.launched.trans h.launched
  · exact h'.channel.trans h.channel

theorem Follows.feed (h : m.Follows later changes) :
    later.registry.feed = m.registry.feed.publishAll changes := by
  obtain ⟨ops, hops⟩ := h.registry
  have hfeed := m.registry.feed_performAll ops
  rwa [hops] at hfeed

theorem Follows.replays (h : m.Follows later changes) :
    replay m.registry.table.get? changes = later.registry.table.get? := by
  obtain ⟨ops, hops⟩ := h.registry
  have hreplays := m.registry.performAll_replays ops
  rwa [hops] at hreplays

theorem Proceeds.refl (m : Monitor) : m.Proceeds m [] := ⟨.refl m, rfl⟩

theorem Proceeds.trans {latest : Monitor} (h : m.Proceeds later changes)
    (h' : later.Proceeds latest more) : m.Proceeds latest (changes ++ more) :=
  ⟨h.toFollows.trans h'.toFollows, h'.position.trans h.position⟩

theorem proceeds_of_removals {r : Registry} {ops : List RegistryOp}
    (hops : m.registry.performAll ops = (r, changes)) (hremoved : ∀ c ∈ changes, c.kind = .removed) :
    m.Proceeds (m.withRegistry r) changes := by
  obtain ⟨hadded, hupdated⟩ := countOf_of_removals hremoved
  refine ⟨⟨⟨ops, hops⟩, ?_, ?_, rfl, rfl, rfl⟩, rfl⟩
  · rw [hadded]
    rfl
  · rw [hupdated]
    rfl

/-! ### Taking in -/

theorem run_settle (m : Monitor) (handled : Handled) (h : Host) :
    (m.settle handled).run h
      = ({ m with listener := { m.listener with intake := handled.intake }, inHand := .nothing },
        { h with log := h.log ++ handled.log }) := by
  rw [settle, StateT.run_bind, Host.run_reportAll]
  rfl

theorem run_judge_of_rejected {s : Submission} {reason : Rejection} {h : Host}
    (hhand : m.inHand = .submitted s) (hjudge : m.listener.intake.judge s h.time = .error reason) :
    m.judge.run h = (m.settle (m.listener.intake.turnDown (.rejected s.jobId reason))).run h := by
  rw [judge, hhand]
  dsimp only
  rw [Host.run_now_bind, hjudge]

theorem run_judge_of_admitted {s : Submission} {a : Admitted} {h : Host}
    (hhand : m.inHand = .submitted s) (hjudge : m.listener.intake.judge s h.time = .ok a) :
    m.judge.run h = ({ m with inHand := .admitted a }, h.withLine a.logLine) := by
  rw [judge, hhand]
  dsimp only
  rw [Host.run_now_bind, hjudge]
  rfl

/-- A frame that changes nothing is counted neither as a new job nor as a replaced one. -/
theorem proceeds_turnDown (m : Monitor) {outcome : IngestOutcome}
    (haccepted : (m.listener.intake.counts.record outcome).accepted = m.listener.intake.counts.accepted)
    (hupdated : (m.listener.intake.counts.record outcome).updated = m.listener.intake.counts.updated)
    (h : Host) : m.Proceeds ((m.settle (m.listener.intake.turnDown outcome)).run h).1 [] :=
  ⟨⟨⟨[], rfl⟩, haccepted, hupdated, rfl, rfl, rfl⟩, rfl⟩

/-- A monitor that has something else in hand. -/
theorem proceeds_inHand (m : Monitor) (inHand : InHand) : m.Proceeds { m with inHand } [] :=
  ⟨⟨⟨[], rfl⟩, rfl, rfl, rfl, rfl, rfl⟩, rfl⟩

theorem proceeds_pickUp (m : Monitor) (frame : Frame) (h : Host) :
    m.Proceeds ((m.pickUp frame).run h).1 [] := by
  cases frame with
  | discarded length reason => exact m.proceeds_turnDown rfl rfl h
  | message payload =>
    rw [pickUp]
    cases Submission.decode payload with
    | error e => exact m.proceeds_turnDown rfl rfl h
    | ok s => exact m.proceeds_inHand (.submitted s)

theorem proceeds_read (m : Monitor) (h : Host) : m.Proceeds (m.read.run h).1 [] := by
  rw [read]
  split
  · exact .refl m
  · rw [StateT.run_bind]
    have hfile : (m.listener.reader.next.run h).1.2.file = m.listener.reader.file := rfl
    generalize m.listener.reader.next.run h = found at hfile ⊢
    obtain ⟨⟨frame, reader⟩, h'⟩ := found
    have hread : m.Proceeds { m with listener := { m.listener with reader } } [] :=
      ⟨⟨⟨[], rfl⟩, rfl, rfl, rfl, rfl, hfile⟩, rfl⟩
    cases frame with
    | none => exact hread
    | some frame => exact hread.trans (proceeds_pickUp _ frame h')

theorem proceeds_judge (m : Monitor) (h : Host) : m.Proceeds (m.judge.run h).1 [] := by
  cases hhand : m.inHand with
  | submitted s =>
    cases hjudge : m.listener.intake.judge s h.time with
    | error reason =>
      rw [run_judge_of_rejected hhand hjudge]
      exact m.proceeds_turnDown rfl rfl h
    | ok a =>
      rw [run_judge_of_admitted hhand hjudge]
      exact m.proceeds_inHand (.admitted a)
  | _ =>
    rw [judge, hhand]
    exact .refl m

/-- The registry finds out whether it replaces an entry, and is believed when the job is counted. -/
theorem proceeds_register (m : Monitor) (h : Host) :
    m.Proceeds (m.register.run h).1 (m.changesIn h .registers) := by
  rw [register, changesIn]
  cases m.inHand with
  | nothing => exact .refl m
  | submitted s => exact .refl m
  | admitted a =>
    obtain ⟨haccepted, hupdated⟩ := m.listener.intake.countOf_register a.entry
    have hops := m.registry.performAll_singleton (.upsert a.entry)
    exact ⟨⟨⟨[.upsert a.entry], hops⟩, haccepted, hupdated, rfl, rfl, rfl⟩, rfl⟩

/-! ### Sweeping -/

theorem proceeds_sweep (m : Monitor) (h : Host) :
    m.Proceeds (m.sweep.run h).1 (((m.registry.sweep hostProbe).run h).1.1.map (⟨.removed, ·⟩)) := by
  obtain ⟨ops, -, hops⟩ := m.registry.exists_sweepOver hostProbe m.registry.table.entries h
  refine proceeds_of_removals hops fun c hc => ?_
  obtain ⟨e, -, rfl⟩ := List.mem_map.1 hc
  rfl

theorem proceeds_removeFinished (m : Monitor) (id : JobId) (h : Host) :
    m.Proceeds ((m.removeFinished id).run h).1
      ((m.registry.removeFinished hostProbe id).run h).1.changes := by
  obtain ⟨gone, hremoval⟩ := m.registry.exists_removeFinished hostProbe id h
  have hmonitor : ((m.removeFinished id).run h).1
      = m.withRegistry (m.registry.removeIf id fun _ => gone).registry := by
    rw [← hremoval]
    rfl
  have hremoved : ∀ c ∈ (m.registry.perform (.removeIf id fun _ => gone)).2, c.kind = .removed :=
    fun c => Registry.kind_of_mem_perform fun e he => RegistryOp.noConfusion he
  rw [hmonitor, hremoval]
  exact proceeds_of_removals (m.registry.performAll_singleton (.removeIf id fun _ => gone)) hremoved

/-! ### Any turn -/

/-- Whatever happens apart from the export, the registry and the counts go with what it changes. -/
theorem proceeds_step (m : Monitor) {e : MonitorEvent} (he : e.isExport = false) (h : Host) :
    m.Proceeds ((m.step e).run h).1 (m.changesIn h e) := by
  cases e with
  | clock now => exact .refl m
  | processes alive => exact .refl m
  | arrives bytes => exact .refl m
  | writes => exact .refl m
  | reads => exact m.proceeds_read h
  | judges => exact m.proceeds_judge h
  | registers => exact m.proceeds_register h
  | removes id =>
    rw [step, changesIn]
    cases m.isSweeping with
    | false => exact .refl m
    | true => exact m.proceeds_removeFinished id h
  | sweeps =>
    rw [step, changesIn]
    cases m.isSweeping with
    | false => exact .refl m
    | true => exact m.proceeds_sweep h
  | exportsNext => cases he
  | exports => cases he

theorem follows_step (m : Monitor) (e : MonitorEvent) (h : Host) :
    m.Follows ((m.step e).run h).1 (m.changesIn h e) := by
  cases he : e.isExport with
  | false => exact (m.proceeds_step he h).toFollows
  | true =>
    -- The export changes nothing but how far it has got.
    rcases MonitorEvent.eq_of_isExport he with rfl | rfl <;>
      exact ⟨⟨[], rfl⟩, rfl, rfl, rfl, rfl, rfl⟩

/-! ### Handling a frame in one go -/

/-- If nothing happens between its turns, a frame is handled as the intake handles it in one go: the same
    is done to the registry and the counts, and the same is reported. -/
theorem run_takeIn (m : Monitor) (frame : Frame) (h : Host) :
    (do (← (← m.pickUp frame).judge).register : HostAction Monitor).run h
      = (m.settle (m.listener.intake.handle frame h.time)).run h := by
  cases frame with
  | discarded length reason =>
    rw [pickUp, StateT.run_bind, run_settle]
    rfl
  | message payload =>
    rw [pickUp, Intake.handle, Intake.ingest]
    cases Submission.decode payload with
    | error e =>
      rw [StateT.run_bind]
      dsimp only
      rw [run_settle]
      rfl
    | ok s =>
      let holding : Monitor := { m with inHand := .submitted s }
      show (do (← holding.judge).register : HostAction Monitor).run h = _
      rw [StateT.run_bind]
      dsimp only
      cases hjudge : m.listener.intake.judge s h.time with
      | error reason =>
        rw [run_judge_of_rejected (m := holding) rfl hjudge, run_settle]
        rfl
      | ok a =>
        rw [run_judge_of_admitted (m := holding) rfl hjudge, run_settle]
        show (holding.settle (m.listener.intake.register a.entry)).run _ = _
        rw [run_settle]
        show (_, { h with log := h.log ++ [a.logLine] ++ _ }) = _
        rw [List.append_assoc]
        rfl

/-! ## The journal -/

/-- The monitor exports to the journal in the file, and the file is not its channel. -/
structure ExportsTo (m : Monitor) (journal : Path) (file : FileId) : Prop where
  journal : HasJournal m.exporters journal file
  apart : m.listener.reader.file ≠ file

variable {journal : Path} {file : FileId}

theorem Follows.exportsTo (h : m.Follows later changes) (hfile : m.ExportsTo journal file) :
    later.ExportsTo journal file := by
  constructor
  · rw [h.exporters]
    exact hfile.journal
  · rw [h.channel]
    exact hfile.apart

/-- The probes change nothing. -/
theorem holds_hostProbe {bytes : Bytes} (pid : Pid) (h : Host) (hholds : h.Holds file bytes) :
    ((hostProbe pid).run h).2.Holds file bytes := hholds

theorem spares_settle (m : Monitor) (handled : Handled) : HostAction.Spares (m.settle handled) file :=
  (HostAction.spares_reportAll _).bind fun _ => HostAction.spares_pure _

theorem spares_read (hchannel : m.listener.reader.file ≠ file) : HostAction.Spares m.read file := by
  have hnext : HostAction.Spares m.listener.reader.next file := by
    refine (HostAction.spares_of_files fun _ => rfl).bind fun node => ?_
    exact (HostAction.spares_modifyFile (.inl hchannel)).bind fun _ => HostAction.spares_pure _
  rw [read]
  split
  · exact HostAction.spares_pure m
  · refine hnext.bind fun found => ?_
    obtain ⟨frame, reader⟩ := found
    cases frame with
    | none => exact HostAction.spares_pure _
    | some frame =>
      cases frame with
      | discarded length reason => exact spares_settle _ _
      | message payload =>
        dsimp only
        rw [pickUp]
        cases Submission.decode payload with
        | error e => exact spares_settle _ _
        | ok s => exact HostAction.spares_pure _

theorem spares_judge (m : Monitor) : HostAction.Spares m.judge file := by
  rw [judge]
  cases m.inHand with
  | nothing => exact HostAction.spares_pure m
  | admitted a => exact HostAction.spares_pure m
  | submitted s =>
    refine (HostAction.spares_of_files fun _ => rfl).bind fun now => ?_
    cases m.listener.intake.judge s now with
    | error reason => exact spares_settle _ _
    | ok a => exact (HostAction.spares_report _).bind fun _ => HostAction.spares_pure _

theorem spares_register (m : Monitor) : HostAction.Spares m.register file := by
  rw [register]
  cases m.inHand with
  | nothing => exact HostAction.spares_pure m
  | submitted s => exact HostAction.spares_pure m
  | admitted a => exact spares_settle _ _

theorem records_sweep : HostAction.Records m.sweep file [] := by
  have hsweep : HostAction.Records (m.registry.sweep hostProbe) file [] :=
    HostAction.records_nil fun _ _ hholds =>
      m.registry.sweepOver_keeps hostProbe holds_hostProbe m.registry.table.entries hholds
  exact hsweep.bind_nil fun _ =>
    (HostAction.records_reportAll _).bind_nil fun _ => HostAction.records_pure _

theorem records_removeFinished (id : JobId) : HostAction.Records (m.removeFinished id) file [] := by
  have hremove : HostAction.Records (m.registry.removeFinished hostProbe id) file [] :=
    HostAction.records_nil fun _ _ hholds =>
      m.registry.removeFinished_keeps hostProbe holds_hostProbe id hholds
  exact hremove.bind_nil fun _ =>
    (HostAction.records_reportAll _).bind_nil fun _ => HostAction.records_pure _

/-- A turn that is not one of the export records nothing. -/
theorem records_step {e : MonitorEvent} (he : e.isExport = false)
    (hchannel : m.listener.reader.file ≠ file) : HostAction.Records (m.step e) file [] := by
  cases e with
  | clock now => exact HostAction.records_of_files fun _ => rfl
  | processes alive => exact HostAction.records_of_files fun _ => rfl
  | arrives bytes =>
    exact (HostAction.records_modifyFile (.inl hchannel)).bind_nil fun _ => HostAction.records_pure _
  | writes => exact HostAction.records_writeAll.bind_nil fun _ => HostAction.records_pure _
  | reads => exact (spares_read hchannel).records
  | judges => exact (spares_judge m).records
  | registers => exact (spares_register m).records
  | removes id =>
    rw [step]
    split
    · exact records_removeFinished id
    · exact HostAction.records_pure m
  | sweeps =>
    rw [step]
    split
    · exact records_sweep
    · exact HostAction.records_pure m
  | exports => cases he
  | exportsNext => cases he

theorem spares_wait (p : LaunchedProgram) (isCancelled : Bool) :
    HostAction.Spares (p.wait isCancelled) file := by
  rw [LaunchedProgram.wait]
  cases p.waitEnd isCancelled <;> exact HostAction.spares_of_files fun _ => rfl

/-- Whoever leaves the monitor has all recorded that is still to be exported, and written. -/
theorem completes_leave {unread : List Change} (hfile : m.ExportsTo journal file)
    (hunread : m.registry.feed.UnreadFrom m.position unread)
    (hroom : unread.length ≤ m.registry.feed.capacity) (isCancelled : Bool) :
    HostAction.Completes (m.leave isCancelled) file unread := by
  have hwait : HostAction.Spares (m.launched.mapM (·.wait isCancelled)) file := by
    cases m.launched with
    | none => exact HostAction.spares_pure none
    | some p => exact (spares_wait p isCancelled).bind fun code => HostAction.spares_pure (some code)
  -- Closing the channel changes another file, and the lock is no part of what a file holds.
  have hrelease : HostAction.Spares m.listener.lock.release file :=
    HostAction.spares_modifyFile (.inr fun _ => ⟨rfl, rfl, rfl⟩)
  have hclose : HostAction.Spares m.listener.close file :=
    hrelease.bind fun _ => HostAction.spares_modifyFile (.inl hfile.apart)
  refine hwait.records.then_completes fun exitCode => ?_
  refine (HostAction.records_report _).then_completes fun _ => hclose.records.then_completes fun _ => ?_
  refine (hfile.journal.completes_runExport hunread hroom .cancelled).then_spares fun _ => ?_
  exact (HostAction.spares_report _).bind fun _ => HostAction.spares_pure _

end Monitor

end JobMonitor
