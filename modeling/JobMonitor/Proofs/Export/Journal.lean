import JobMonitor.Export.Exporters
import JobMonitor.Proofs.Channel.Line
import JobMonitor.Proofs.Export.Delivery
import JobMonitor.Proofs.Files.Names
import JobMonitor.Proofs.Job.Entry

set_option autoImplicit false

/-! # The journal of an export

A journal is what its file held before and one line for each change behind that. The line is a record
that is read back as the change. What exporters do to the file is said action by action: an action
records some changes, most of them none, and actions one after another record the changes of the
first and then those of the second (`HostAction.Records`). A record is handed over first and written
later; what is left to be written is written when the exporters are flushed
(`HostAction.Completes`). So an export that is not too far behind records what is unread, and when it has
ended the file holds all of it. -/

namespace JobMonitor

variable {α β : Type}

/-! ## What a journal is -/

/-- The bytes are those that were there before and the lines of the records. -/
structure JournalOf (previous bytes : Bytes) (records : List ExportRecord) : Prop where
  content : bytes = previous ++ (records.map (·.toJson.bytes)).flatMap (· ++ [newline])
  oneLine : ∀ r ∈ records, newline ∉ r.toJson.bytes
  readBack : (records.map (·.toJson.bytes)).mapM Change.read = .ok (records.map (·.change))
  /-- The records are the lines of the file, if what was there before does not end in the middle of
      a line. -/
  lines : previous = [] ∨ previous.getLast? = some newline →
    completeLines bytes = completeLines previous ++ records.map (·.toJson.bytes) ∧
      unfinishedLine bytes = []

theorem splitOn_lines {docs : List Bytes} (h : ∀ doc ∈ docs, newline ∉ doc) :
    (docs.flatMap (· ++ [newline])).splitOn newline = docs ++ [[]] := by
  induction docs with
  | nil => rfl
  | cons doc rest ih =>
    rw [List.flatMap_cons, List.append_assoc, List.singleton_append,
      List.splitOn_append_cons_self_of_not_mem (h doc List.mem_cons_self),
      ih fun doc hdoc => h doc (List.mem_cons_of_mem _ hdoc)]
    rfl

/-- Lines that are added behind a line end are the last lines. -/
theorem completeLines_append_lines {previous : Bytes} {docs : List Bytes}
    (hprevious : previous = [] ∨ previous.getLast? = some newline)
    (h : ∀ doc ∈ docs, newline ∉ doc) :
    completeLines (previous ++ docs.flatMap (· ++ [newline])) = completeLines previous ++ docs ∧
      unfinishedLine (previous ++ docs.flatMap (· ++ [newline])) = [] := by
  have hdocs := splitOn_lines h
  rcases hprevious with rfl | hlast
  · rw [List.nil_append, completeLines, unfinishedLine, hdocs, List.dropLast_concat]
    exact ⟨rfl, by simp⟩
  · obtain ⟨front, rfl⟩ := List.getLast?_eq_some_iff.1 hlast
    have hsplit := List.splitOn_append_cons_self (a := newline) front
      (docs.flatMap (· ++ [newline]))
    have hfront := List.splitOn_append_cons_self (a := newline) front []
    rw [completeLines, unfinishedLine, completeLines, List.append_assoc, List.singleton_append,
      hsplit, hfront, hdocs, List.splitOn_nil, List.dropLast_concat, ← List.append_assoc,
      List.dropLast_concat]
    exact ⟨rfl, by simp⟩

/-- The documents of the records are read back as the changes. -/
theorem mapM_read_records (records : List ExportRecord) :
    (records.map (·.toJson.bytes)).mapM Change.read = .ok (records.map (·.change)) := by
  induction records with
  | nil => rfl
  | cons r rest ih =>
    rw [List.map_cons, List.mapM_cons, r.read_bytes, ih]
    rfl

theorem journalOf_records (previous : Bytes) (records : List ExportRecord) :
    JournalOf previous (previous ++ records.flatMap ExportRecord.line) records := by
  have hline : ∀ doc ∈ records.map (·.toJson.bytes), newline ∉ doc := by
    intro doc hdoc
    obtain ⟨r, -, rfl⟩ := List.mem_map.1 hdoc
    exact r.newline_not_mem_bytes
  have hcontent : records.flatMap ExportRecord.line
      = (records.map (·.toJson.bytes)).flatMap (· ++ [newline]) := by
    rw [List.flatMap_map]
    rfl
  rw [hcontent]
  exact ⟨rfl, fun r _ => r.newline_not_mem_bytes, mapM_read_records records,
    fun hprevious => completeLines_append_lines hprevious hline⟩

/-! ## Actions that record changes -/

/-- What the file will hold when all that has been handed over has been written. -/
def FileNode.content (n : FileNode) : Bytes := n.bytes ++ n.unwritten

/-- The file is there and takes what is added to it, and the bytes are what it will hold when all that has
    been handed over has been written. -/
structure Host.Holds (h : Host) (file : FileId) (bytes : Bytes) : Prop where
  there : file < h.files.nodes.length
  taken : (h.files.node file).refusal = none
  content : (h.files.node file).content = bytes

/-- What the action adds to the file is a record of each of the changes. -/
def HostAction.Records (x : HostAction α) (file : FileId) (changes : List Change) : Prop :=
  ∀ h bytes, h.Holds file bytes → ∃ records : List ExportRecord,
    records.map (·.change) = changes ∧
      (x.run h).2.Holds file (bytes ++ records.flatMap ExportRecord.line)

/-- The action adds to the file a record of each of the changes, and when it is done everything has been
    written. -/
def HostAction.Completes (x : HostAction α) (file : FileId) (changes : List Change) : Prop :=
  ∀ h bytes, h.Holds file bytes → ∃ records : List ExportRecord,
    records.map (·.change) = changes ∧
      (x.run h).2.Holds file (bytes ++ records.flatMap ExportRecord.line) ∧
      ((x.run h).2.files.node file).unwritten = []

/-- Whatever the action does, it leaves the file as it is. -/
def HostAction.Spares (x : HostAction α) (file : FileId) : Prop :=
  ∀ h : Host, file < h.files.nodes.length → file < (x.run h).2.files.nodes.length ∧
    ((x.run h).2.files.node file).HoldsAs (h.files.node file)

theorem FileNode.HoldsAs.content {n other : FileNode} (h : n.HoldsAs other) :
    n.content = other.content := by
  rw [FileNode.content, h.bytes, h.unwritten, FileNode.content]

/-- A file that takes what is added to it holds all of it when it has been written. -/
theorem FileNode.write_of_taken {n : FileNode} (h : n.refusal = none) :
    n.write = { n with bytes := n.content, unwritten := [] } := by
  rw [FileNode.write, if_pos (Option.isNone_iff_eq_none.2 h)]
  rfl

/-- When nothing is left to be written the file holds all of it. -/
theorem Host.Holds.bytes {h : Host} {file : FileId} {bytes : Bytes} (hholds : h.Holds file bytes)
    (hwritten : (h.files.node file).unwritten = []) : (h.files.node file).bytes = bytes := by
  rw [← hholds.content, FileNode.content, hwritten, List.append_nil]

namespace HostAction

variable {file : FileId} {changes more : List Change}

/-! ### Leaving the file as it is -/

/-- An action that leaves all files as they are. -/
theorem spares_of_files {x : HostAction α} (h : ∀ host, (x.run host).2.files = host.files) :
    Spares x file := by
  intro host hthere
  rw [h host]
  exact ⟨hthere, .refl _⟩

theorem spares_pure (a : α) : Spares (pure a) file := spares_of_files fun _ => rfl

theorem spares_report (line : LogLine) : Spares (Host.report line) file := spares_of_files fun _ => rfl

/-- The file stays as it is if another one is changed, or something else about it. -/
theorem spares_modifyFile {id : FileId} {change : FileNode → FileNode}
    (h : id ≠ file ∨ ∀ n, (change n).HoldsAs n) : Spares (Host.modifyFile id change) file := by
  intro host hthere
  refine ⟨?_, ?_⟩
  · show file < (host.files.modify id change).nodes.length
    rwa [Files.modify, List.length_modify]
  · show ((host.files.modify id change).node file).HoldsAs _
    rw [Files.node_modify]
    split
    · next hsame => exact h.resolve_left (not_not_intro hsame.1) _
    · exact .refl _

theorem Spares.bind {x : HostAction α} {f : α → HostAction β} (hx : Spares x file)
    (hf : ∀ a, Spares (f a) file) : Spares (x >>= f) file := by
  intro h hthere
  obtain ⟨hthere', hsame⟩ := hx h hthere
  obtain ⟨hthere'', hsame'⟩ := hf (x.run h).1 (x.run h).2 hthere'
  exact ⟨hthere'', hsame'.trans hsame⟩

theorem spares_reportAll (lines : List LogLine) : Spares (lines.forM Host.report) file := by
  induction lines with
  | nil => exact spares_pure ()
  | cons line rest ih => exact (spares_report line).bind fun _ => ih

theorem Spares.holds {x : HostAction α} (hx : Spares x file) {h : Host} {bytes : Bytes}
    (hholds : h.Holds file bytes) : (x.run h).2.Holds file bytes := by
  obtain ⟨hthere, hsame⟩ := hx h hholds.there
  exact ⟨hthere, hsame.refusal.trans hholds.taken, hsame.content.trans hholds.content⟩

/-! ### Recording -/

theorem records_nil {x : HostAction α}
    (h : ∀ host bytes, host.Holds file bytes → (x.run host).2.Holds file bytes) :
    Records x file [] := by
  intro host bytes hholds
  refine ⟨[], rfl, ?_⟩
  rw [List.flatMap_nil, List.append_nil]
  exact h host bytes hholds

/-- An action that leaves the file as it is records nothing. -/
theorem Spares.records {x : HostAction α} (hx : Spares x file) : Records x file [] :=
  records_nil fun _ _ hholds => hx.holds hholds

theorem Records.holds {x : HostAction α} (hx : Records x file []) {h : Host} {bytes : Bytes}
    (hholds : h.Holds file bytes) : (x.run h).2.Holds file bytes := by
  obtain ⟨records, hnone, hafter⟩ := hx h bytes hholds
  obtain rfl := List.map_eq_nil_iff.1 hnone
  rwa [List.flatMap_nil, List.append_nil] at hafter

theorem records_of_files {x : HostAction α} (h : ∀ host, (x.run host).2.files = host.files) :
    Records x file [] := (spares_of_files h).records

theorem records_pure (a : α) : Records (pure a) file [] := (spares_pure a).records

theorem records_report (line : LogLine) : Records (Host.report line) file [] :=
  (spares_report line).records

theorem records_modifyFile {id : FileId} {change : FileNode → FileNode}
    (h : id ≠ file ∨ ∀ n, (change n).HoldsAs n) : Records (Host.modifyFile id change) file [] :=
  (spares_modifyFile h).records

/-- Of two actions the first one records its changes first. -/
theorem Records.bind {x : HostAction α} {f : α → HostAction β} (hx : Records x file changes)
    (hf : ∀ a, Records (f a) file more) : Records (x >>= f) file (changes ++ more) := by
  intro h bytes hholds
  obtain ⟨records, hchanges, hafter⟩ := hx h bytes hholds
  obtain ⟨records', hmore, hafter'⟩ := hf (x.run h).1 (x.run h).2 _ hafter
  refine ⟨records ++ records', ?_, ?_⟩
  · rw [List.map_append, hchanges, hmore]
  · rw [List.flatMap_append, ← List.append_assoc]
    exact hafter'

theorem Records.bind_nil {x : HostAction α} {f : α → HostAction β} (hx : Records x file [])
    (hf : ∀ a, Records (f a) file changes) : Records (x >>= f) file changes :=
  hx.bind hf

theorem Records.then_nil {x : HostAction α} {f : α → HostAction β} (hx : Records x file changes)
    (hf : ∀ a, Records (f a) file []) : Records (x >>= f) file changes := by
  have hall := hx.bind hf
  rwa [List.append_nil] at hall

theorem records_forM {γ : Type} {act : γ → HostAction Unit} {recorded : γ → List Change}
    (h : ∀ a, Records (act a) file (recorded a)) (as : List γ) :
    Records (as.forM act) file (as.flatMap recorded) := by
  induction as with
  | nil => exact records_pure ()
  | cons a rest ih => exact (h a).bind fun _ => ih

/-- One record for each change. -/
theorem records_forM_changes {act : Change → HostAction Unit} (h : ∀ c, Records (act c) file [c])
    (changes : List Change) : Records (changes.forM act) file changes := by
  have hall := records_forM h changes
  rwa [List.flatMap_singleton'] at hall

theorem records_reportAll (lines : List LogLine) : Records (lines.forM Host.report) file [] := by
  have hall := records_forM (fun line => @records_report file line) lines
  rwa [List.flatMap_eq_nil_iff.2 fun _ _ => rfl] at hall

/-! ### Writing -/

/-- The host writes what has been handed over. -/
theorem records_writeAll : Records Host.writeAll file [] := by
  refine records_nil fun h bytes hholds => ?_
  obtain ⟨hthere, htaken, hcontent⟩ := hholds
  have hnode : ((Host.writeAll.run h).2.files.node file) = (h.files.node file).write := by
    show ((h.files.nodes.map FileNode.write)[file]?).getD default = _
    rw [Files.node, List.getElem?_map, List.getElem?_eq_getElem hthere]
    rfl
  have hwrite := FileNode.write_of_taken htaken
  refine ⟨?_, ?_, ?_⟩
  · show file < (h.files.nodes.map FileNode.write).length
    rwa [List.length_map]
  · rw [hnode, hwrite]
    exact htaken
  · rw [hnode, hwrite, ← hcontent]
    exact List.append_nil _

/-- A file that takes what is added to it has got all of it when its writing has been waited for. -/
theorem run_awaitWriting {h : Host} {bytes : Bytes} (hholds : h.Holds file bytes) :
    ((Host.awaitWriting file).run h).1 = .ok () ∧
      ((Host.awaitWriting file).run h).2.Holds file bytes ∧
      (((Host.awaitWriting file).run h).2.files.node file).unwritten = [] := by
  obtain ⟨hthere, htaken, hcontent⟩ := hholds
  have hnode : (((Host.awaitWriting file).run h).2.files.node file)
      = { h.files.node file with bytes := (h.files.node file).content, unwritten := [] } := by
    show ((h.files.modify file fun n => { n.write with unwritten := [] }).node file) = _
    rw [Files.node_modify, if_pos ⟨rfl, hthere⟩, FileNode.write_of_taken htaken]
  refine ⟨?_, ⟨?_, ?_, ?_⟩, ?_⟩
  · show (if (h.files.node file).unwritten.isEmpty then Except.ok ()
      else (h.files.node file).refusal.elim (.ok ()) .error) = _
    rw [htaken]
    exact ite_self _
  · show file < (h.files.modify file _).nodes.length
    rwa [Files.modify, List.length_modify]
  · rw [hnode]
    exact htaken
  · rw [hnode, ← hcontent]
    exact List.append_nil _
  · rw [hnode]

theorem completes_flushRecords : Completes (flushRecords file) file [] := by
  intro h bytes hholds
  obtain ⟨-, hafter, hwritten⟩ := run_awaitWriting hholds
  refine ⟨[], rfl, ?_, hwritten⟩
  rw [List.flatMap_nil, List.append_nil]
  exact hafter

/-- What is handed over to a file that takes it is there to be written, and nothing else. -/
theorem holds_handOver {h : Host} {bytes : Bytes} (hholds : h.Holds file bytes) (more : Bytes) :
    ((Host.handOver file more).run h).2.Holds file (bytes ++ more) := by
  obtain ⟨hok, ⟨hthere, htaken, hcontent⟩, hwritten⟩ := run_awaitWriting hholds
  rcases hawaited : (Host.awaitWriting file).run h with ⟨result, h'⟩
  rw [hawaited] at hok hthere htaken hcontent hwritten
  obtain rfl : result = .ok () := hok
  have hnode := Files.node_modify h'.files file file fun n => { n with unwritten := more }
  rw [if_pos ⟨rfl, hthere⟩] at hnode
  have hrun : ((Host.handOver file more).run h).2.files
      = h'.files.modify file fun n => { n with unwritten := more } := by
    rw [Host.handOver, StateT.run_bind, hawaited]
    rfl
  refine ⟨?_, ?_, ?_⟩
  · rw [hrun, Files.modify, List.length_modify]
    exact hthere
  · rw [hrun, hnode]
    exact htaken
  · rw [hrun, hnode, ← hcontent, FileNode.content, FileNode.content, hwritten, List.append_nil]

theorem records_appendRecord (path : Path) (c : Change) :
    Records (appendRecord path file c) file [c] := by
  intro h bytes hholds
  refine ⟨[⟨h.time, c⟩], rfl, ?_⟩
  rw [List.flatMap_singleton]
  exact holds_handOver hholds (ExportRecord.mk h.time c).line

/-! ### Refused records -/

theorem run_awaitWriting_of_refused {h : Host} {e : OsError} (hthere : file < h.files.nodes.length)
    (hrefusal : (h.files.node file).refusal = some e)
    (hpending : (h.files.node file).unwritten ≠ []) :
    ((Host.awaitWriting file).run h).1 = .error e ∧
      ((Host.awaitWriting file).run h).2.files.node file
        = { h.files.node file with unwritten := [] } := by
  constructor
  · show (if (h.files.node file).unwritten.isEmpty then Except.ok ()
      else (h.files.node file).refusal.elim (.ok ()) .error) = _
    rw [hrefusal, if_neg (by simpa using hpending)]
    rfl
  · show ((h.files.modify file fun n => { n.write with unwritten := [] }).node file) = _
    rw [Files.node_modify, if_pos ⟨rfl, hthere⟩, FileNode.write, if_neg (by simp [hrefusal])]

/-- **A record that the file refuses is lost, and so is the next one.** What is done next with the journal
    fails for it, be it the next record or the flush, and the file keeps what it has. -/
theorem refused_record_lost {h : Host} {e : OsError} (hthere : file < h.files.nodes.length)
    (hrefusal : (h.files.node file).refusal = some e)
    (hpending : (h.files.node file).unwritten ≠ []) (path : Path) (c : Change) :
    ((appendRecord path file c).run h).1
        = .error ("failed to write to " ++ path ++ ": " ++ e.message) ∧
      ((appendRecord path file c).run h).2.files.node file
        = { h.files.node file with unwritten := [] } ∧
      ((flushRecords file).run h).1 = .error e.message ∧
      ((flushRecords file).run h).2.files.node file
        = { h.files.node file with unwritten := [] } := by
  obtain ⟨hfailed, hlost⟩ := run_awaitWriting_of_refused hthere hrefusal hpending
  rcases hawaited : (Host.awaitWriting file).run h with ⟨result, h'⟩
  rw [hawaited] at hfailed hlost
  obtain rfl : result = .error e := hfailed
  have hline : (Host.handOver file (ExportRecord.mk h.time c).line).run h = (.error e, h') := by
    rw [Host.handOver, StateT.run_bind, hawaited]
    rfl
  have happend : (appendRecord path file c).run h
      = (.error ("failed to write to " ++ path ++ ": " ++ e.message), h') := by
    rw [appendRecord, Host.run_now_bind, StateT.run_bind, hline]
    rfl
  have hflush : (flushRecords file).run h = (.error e.message, h') := by
    rw [flushRecords, StateT.run_bind, hawaited]
    rfl
  rw [happend, hflush]
  exact ⟨rfl, hlost, rfl, hlost⟩

/-! ### Completing -/

theorem Records.then_completes {x : HostAction α} {f : α → HostAction β}
    (hx : Records x file changes) (hf : ∀ a, Completes (f a) file more) :
    Completes (x >>= f) file (changes ++ more) := by
  intro h bytes hholds
  obtain ⟨records, hchanges, hafter⟩ := hx h bytes hholds
  obtain ⟨records', hmore, hafter', hwritten⟩ := hf (x.run h).1 (x.run h).2 _ hafter
  refine ⟨records ++ records', ?_, ?_, hwritten⟩
  · rw [List.map_append, hchanges, hmore]
  · rw [List.flatMap_append, ← List.append_assoc]
    exact hafter'

theorem Completes.then_spares {x : HostAction α} {f : α → HostAction β}
    (hx : Completes x file changes) (hf : ∀ a, Spares (f a) file) :
    Completes (x >>= f) file changes := by
  intro h bytes hholds
  obtain ⟨records, hchanges, hafter, hwritten⟩ := hx h bytes hholds
  obtain ⟨-, hsame⟩ := hf (x.run h).1 (x.run h).2 hafter.there
  exact ⟨records, hchanges, (hf (x.run h).1).holds hafter, hsame.unwritten.trans hwritten⟩

end HostAction

/-! ## Exporters beside the journal -/

/-- Whatever the exporter does, it leaves the file as it is. -/
structure Exporter.Spares (x : Exporter HostAction) (file : FileId) : Prop where
  deliver : ∀ c, HostAction.Spares (x.deliver c) file
  flush : HostAction.Spares x.flush file

/-- One of the exporters is the journal in the file, and the others leave the file as it is. -/
def HasJournal (exporters : List (Exporter HostAction)) (path : Path) (file : FileId) : Prop :=
  ∃ before after, exporters = before ++ journalExporter path file :: after ∧
    ∀ x ∈ before ++ after, x.Spares file

theorem logExporter_spares (file : FileId) : (logExporter Host.report).Spares file where
  deliver c := (HostAction.spares_report (exportLogLine c)).bind fun _ => HostAction.spares_pure _
  flush := HostAction.spares_pure _

/-- A journal beside the log. -/
theorem hasJournal_log_journal (path : Path) (file : FileId) :
    HasJournal [logExporter Host.report, journalExporter path file] path file :=
  ⟨[logExporter Host.report], [], rfl, by simpa using logExporter_spares file⟩

/-- A failure is reported, and then it is the next exporter's turn. -/
theorem records_dispatch_cons {file : FileId} {changes more : List Change}
    {x : Exporter HostAction} {rest : List (Exporter HostAction)} {c : Change}
    (hx : HostAction.Records (x.deliver c) file changes)
    (hrest : HostAction.Records (dispatch Host.report c rest) file more) :
    HostAction.Records (dispatch Host.report c (x :: rest)) file (changes ++ more) := by
  rw [dispatch]
  refine hx.bind fun result => ?_
  cases result with
  | ok _ => exact (HostAction.records_pure ()).bind_nil fun _ => hrest
  | error e => exact (HostAction.records_report _).bind_nil fun _ => hrest

theorem records_dispatch_of_spares {file : FileId} {exporters : List (Exporter HostAction)}
    (h : ∀ x ∈ exporters, x.Spares file) (c : Change) :
    HostAction.Records (dispatch Host.report c exporters) file [] := by
  induction exporters with
  | nil => exact HostAction.records_pure ()
  | cons x rest ih =>
    exact records_dispatch_cons ((h x List.mem_cons_self).deliver c).records
      (ih fun y hy => h y (List.mem_cons_of_mem _ hy))

theorem spares_flushAll_of_spares {file : FileId} {exporters : List (Exporter HostAction)}
    (h : ∀ x ∈ exporters, x.Spares file) : HostAction.Spares (flushAll Host.report exporters) file := by
  induction exporters with
  | nil => exact HostAction.spares_pure ()
  | cons x rest ih =>
    have hrest := ih fun y hy => h y (List.mem_cons_of_mem _ hy)
    refine (h x List.mem_cons_self).flush.bind fun result => ?_
    cases result with
    | ok _ => exact (HostAction.spares_pure ()).bind fun _ => hrest
    | error e => exact (HostAction.spares_report _).bind fun _ => hrest

namespace HasJournal

variable {exporters : List (Exporter HostAction)} {path : Path} {file : FileId}

theorem records_dispatch (h : HasJournal exporters path file) (c : Change) :
    HostAction.Records (dispatch Host.report c exporters) file [c] := by
  obtain ⟨before, after, rfl, hothers⟩ := h
  -- The exporters before the journal record nothing, and neither do those behind it.
  induction before with
  | nil =>
    have hjournal : HostAction.Records ((journalExporter path file).deliver c) file [c] :=
      HostAction.records_appendRecord path c
    exact records_dispatch_cons hjournal (records_dispatch_of_spares hothers c)
  | cons x rest ih =>
    exact records_dispatch_cons ((hothers x List.mem_cons_self).deliver c).records
      (ih fun y hy => hothers y (List.mem_cons_of_mem _ hy))

/-- When the exporters are flushed the journal is completed, and those behind it leave it so. -/
theorem completes_flushAll (h : HasJournal exporters path file) :
    HostAction.Completes (flushAll Host.report exporters) file [] := by
  obtain ⟨before, after, rfl, hothers⟩ := h
  induction before with
  | nil =>
    have hjournal : HostAction.Completes (journalExporter path file).flush file [] :=
      HostAction.completes_flushRecords
    refine hjournal.then_spares fun result => ?_
    have hrest := spares_flushAll_of_spares hothers
    cases result with
    | ok _ => exact (HostAction.spares_pure ()).bind fun _ => hrest
    | error e => exact (HostAction.spares_report _).bind fun _ => hrest
  | cons x rest ih =>
    have hrest := ih fun y hy => hothers y (List.mem_cons_of_mem _ hy)
    refine (hothers x List.mem_cons_self).flush.records.then_completes fun result => ?_
    cases result with
    | ok _ => exact (HostAction.records_pure ()).then_completes fun _ => hrest
    | error e => exact (HostAction.records_report _).then_completes fun _ => hrest

variable {f : Feed Change} {position : Nat} {unread : List Change}

theorem records_exportNext (h : HasJournal exporters path file) (hunread : f.UnreadFrom position unread)
    (hroom : unread.length ≤ f.capacity) :
    HostAction.Records (exportNext Host.report exporters f position) file unread.head?.toList := by
  rw [exportNext_eq hunread hroom]
  exact (HostAction.records_forM_changes h.records_dispatch unread.head?.toList).then_nil fun _ =>
    HostAction.records_pure _

theorem records_drainChanges (h : HasJournal exporters path file) (hunread : f.UnreadFrom position unread)
    (hroom : unread.length ≤ f.capacity) :
    HostAction.Records (drainChanges Host.report exporters f position) file unread := by
  rw [drainChanges_eq hunread hroom]
  exact (HostAction.records_forM_changes h.records_dispatch unread).then_nil fun _ =>
    HostAction.records_pure _

theorem completes_runExport (h : HasJournal exporters path file)
    (hunread : f.UnreadFrom position unread) (hroom : unread.length ≤ f.capacity) (stop : ExportStop) :
    HostAction.Completes (runExport Host.report exporters stop f position) file unread := by
  have hflush : HostAction.Completes
      (do flushAll Host.report exporters; Host.report exportStopped) file [] :=
    h.completes_flushAll.then_spares fun _ => HostAction.spares_report exportStopped
  have hall := (HostAction.records_forM_changes h.records_dispatch unread).then_completes
    fun _ => hflush
  rw [List.append_nil] at hall
  rw [runExport_eq hunread hroom]
  exact hall

end HasJournal

/-! ## Opening a journal -/

/-- Opening a journal adds files at most, and then the path leads to the file. -/
theorem of_openJournal {path : Path} {file : FileId} {h h' : Host}
    (hopen : HostAttempt.runOn (openJournal path) h = (.ok file, h')) :
    h.files.Extends h'.files ∧ (h.files.Sound → h'.files.find path = .ok file) := by
  obtain ⟨_, h₁, hparents, hfind⟩ := HostAttempt.exists_of_runOn_bind hopen
  have hextends := Host.extends_makeParents
    (ExportError.directory (path.directory?.getD "")) path h
  rw [hparents] at hextends
  have hmade := Host.of_findOrMake (ExportError.file path) hfind
  exact ⟨hextends.trans hmade.1, fun hsound => hmade.2 (hextends.sound hsound)⟩

/-- Opening a journal leaves what the file holds. -/
theorem openJournal_holds {path : Path} {file : FileId} {h h' : Host} (hsound : h.files.Sound)
    (htaken : (h.files.node file).refusal = none)
    (hopen : HostAttempt.runOn (openJournal path) h = (.ok file, h')) :
    h'.Holds file (h.files.node file).content := by
  obtain ⟨hextends, hfound⟩ := of_openJournal hopen
  have hsame := hextends.holdsAs_node file
  exact ⟨Files.lt_length_of_find (hextends.sound hsound) (hfound hsound),
    hsame.refusal.trans htaken, hsame.content⟩

end JobMonitor
