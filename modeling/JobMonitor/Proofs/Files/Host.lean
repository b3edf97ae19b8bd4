import JobMonitor.Files.Host

set_option autoImplicit false

/-! # Actions on a host

An attempt is run on a host and gives its result with the host after it. An attempt that succeeds
has succeeded in all of its parts, one after another. Files are found by their names and by the kinds
of the directories on the way, so that nothing is found elsewhere when the content of a file
changes. -/

namespace JobMonitor

variable {ε α β : Type}

/-! ## Running attempts -/

/-- What an attempt gives on a host, and the host after it. -/
def HostAttempt.runOn (x : HostAttempt ε α) (h : Host) : Except ε α × Host := x.run.run h

theorem HostAttempt.runOn_bind (x : HostAttempt ε α) (f : α → HostAttempt ε β) (h : Host) :
    HostAttempt.runOn (x >>= f) h = match HostAttempt.runOn x h with
      | (.ok a, h') => HostAttempt.runOn (f a) h'
      | (.error e, h') => (.error e, h') := by
  show (ExceptT.run (x >>= f)).run h = _
  rw [ExceptT.run_bind, StateT.run_bind]
  show (match (x.run.run h).1 with
    | .ok a => (f a).run
    | .error e => pure (.error e)).run (x.run.run h).2 = _
  rw [runOn]
  rcases x.run.run h with ⟨result, h'⟩
  cases result <;> rfl

/-- A sequence of attempts has succeeded if both parts of it have. -/
theorem HostAttempt.exists_of_runOn_bind {x : HostAttempt ε α} {f : α → HostAttempt ε β}
    {h h'' : Host} {b : β} (hok : HostAttempt.runOn (x >>= f) h = (.ok b, h'')) :
    ∃ a h', HostAttempt.runOn x h = (.ok a, h') ∧ HostAttempt.runOn (f a) h' = (.ok b, h'') := by
  rw [HostAttempt.runOn_bind] at hok
  rcases hx : HostAttempt.runOn x h with ⟨result, h'⟩
  rw [hx] at hok
  cases result with
  | error e => simp at hok
  | ok a => exact ⟨a, h', rfl, hok⟩

theorem HostAttempt.runOn_tryCatch (x : HostAttempt ε α) (handle : ε → HostAttempt ε α) (h : Host) :
    HostAttempt.runOn (tryCatch x handle) h = match HostAttempt.runOn x h with
      | (.ok a, h') => (.ok a, h')
      | (.error e, h') => HostAttempt.runOn (handle e) h' := by
  show (ExceptT.run (ExceptT.tryCatch x handle)).run h = _
  rw [ExceptT.tryCatch, ExceptT.run_mk, StateT.run_bind]
  rcases hx : HostAttempt.runOn x h with ⟨result, h'⟩
  have hx' : StateT.run x h = (result, h') := hx
  rw [hx']
  cases result <;> rfl

/-- After a failure something more is done, and it remains a failure. -/
theorem HostAttempt.runOn_orElseDo (x : HostAttempt ε α) (after : HostAction Unit) (h : Host) :
    HostAttempt.runOn (Host.orElseDo x after) h = match HostAttempt.runOn x h with
      | (.ok a, h') => (.ok a, h')
      | (.error e, h') => (.error e, (after.run h').2) := by
  rw [Host.orElseDo, HostAttempt.runOn_tryCatch]
  rcases HostAttempt.runOn x h with ⟨_ | _, h'⟩ <;> rfl

/-- What succeeds has not been followed by what is done after a failure. -/
theorem HostAttempt.runOn_of_orElseDo {x : HostAttempt ε α} {after : HostAction Unit} {h h' : Host}
    {a : α} (hok : HostAttempt.runOn (Host.orElseDo x after) h = (.ok a, h')) :
    HostAttempt.runOn x h = (.ok a, h') := by
  rw [HostAttempt.runOn_orElseDo] at hok
  rcases hx : HostAttempt.runOn x h with ⟨result, h''⟩
  rw [hx] at hok
  cases result with
  | ok b => exact hok
  | error e => exact absurd (congrArg Prod.fst hok) (by simp)

/-- Asking a question changes nothing. -/
theorem HostAttempt.runOn_ask (wrap : OsError → ε) (question : Files → Except OsError α) (h : Host) :
    HostAttempt.runOn (Host.ask wrap question) h = ((question h.files).mapError wrap, h) := by
  have hget : HostAttempt.runOn (get : HostAttempt ε Host) h = (.ok h, h) := rfl
  rw [Host.ask, HostAttempt.runOn_bind, hget]
  dsimp only
  cases question h.files <;> rfl

/-- Reporting lines adds them to the log. -/
theorem Host.run_reportAll (lines : List LogLine) (h : Host) :
    (lines.forM Host.report).run h = ((), { h with log := h.log ++ lines }) := by
  induction lines generalizing h with
  | nil =>
    rw [List.append_nil]
    rfl
  | cons line rest ih =>
    refine (ih { h with log := h.log ++ [line] }).trans ?_
    rw [List.append_assoc]
    rfl

theorem Host.run_now_bind (f : Instant → HostAction α) (h : Host) :
    (do f (← Host.now)).run h = (f h.time).run h := rfl

/-! ## Steps of an attempt -/

/-- The host with a file changed. -/
def Host.withFile (h : Host) (id : FileId) (change : FileNode → FileNode) : Host :=
  { h with files := h.files.modify id change }

/-- The host with one more line in its log. -/
def Host.withLine (h : Host) (line : LogLine) : Host := { h with log := h.log ++ [line] }

theorem HostAttempt.runOn_pure (a : α) (h : Host) :
    HostAttempt.runOn (pure a : HostAttempt ε α) h = (.ok a, h) := rfl

/-- An attempt inside another one, its result looked at. -/
theorem HostAttempt.runOn_lift (x : HostAttempt ε α) (h : Host) :
    HostAttempt.runOn (ExceptT.lift x.run : HostAttempt β (Except ε α)) h
      = (.ok (HostAttempt.runOn x h).1, (HostAttempt.runOn x h).2) := rfl

theorem HostAttempt.runOn_node_bind (id : FileId) (f : FileNode → HostAttempt ε α) (h : Host) :
    HostAttempt.runOn (do f (← Host.node id)) h = HostAttempt.runOn (f (h.files.node id)) h := rfl

theorem HostAttempt.runOn_now_bind (f : Instant → HostAttempt ε α) (h : Host) :
    HostAttempt.runOn (do f (← Host.now)) h = HostAttempt.runOn (f h.time) h := rfl

theorem HostAttempt.runOn_modifyFile_bind (id : FileId) (change : FileNode → FileNode)
    (x : HostAttempt ε α) (h : Host) :
    HostAttempt.runOn (do Host.modifyFile id change; x) h
      = HostAttempt.runOn x (h.withFile id change) := rfl

theorem HostAttempt.runOn_say_bind (level : LogLevel) (message : String) (x : HostAttempt ε α)
    (h : Host) :
    HostAttempt.runOn (do Host.say level message; x) h
      = HostAttempt.runOn x (h.withLine { level, message }) := rfl

/-! ## Files -/

/-- A file that is not the one that is changed is as before. A number without a file stays without
    one. -/
theorem Files.node_modify (f : Files) (id other : FileId) (change : FileNode → FileNode) :
    (f.modify id change).node other
      = if id = other ∧ other < f.nodes.length then change (f.node other) else f.node other := by
  rw [node, modify, List.getElem?_modify, node]
  by_cases hid : id = other
  · by_cases hlt : other < f.nodes.length
    · simp [hid, hlt]
    · simp [hlt]
  · simp [hid]

/-- What is not changed about a file is seen as before. -/
theorem Files.see_node_modify {α : Type} (see : FileNode → α) (f : Files) (id : FileId)
    (change : FileNode → FileNode) (h : ∀ n, see (change n) = see n) (other : FileId) :
    see ((f.modify id change).node other) = see (f.node other) := by
  rw [Files.node_modify]
  split
  · exact h _
  · rfl

/-- A number without a file stands for a file with nothing in it. -/
theorem Files.node_of_length_le (f : Files) {id : FileId} (h : f.nodes.length ≤ id) :
    f.node id = default := by
  rw [node, List.getElem?_eq_none h]
  rfl

/-- A file that is read is there. -/
theorem Files.lt_length_of_readers (f : Files) {id : FileId} (h : (f.node id).readers ≠ 0) :
    id < f.nodes.length := by
  rcases Nat.lt_or_ge id f.nodes.length with hlt | hle
  · exact hlt
  · rw [f.node_of_length_le hle] at h
    exact absurd rfl h

/-- A file holds what it has been given to hold. A number without a file can hold nothing. -/
theorem Files.bytes_modify (f : Files) (id : FileId) {bytes : Bytes}
    (h : (f.node id).bytes = [] → bytes = []) :
    ((f.modify id fun n => { n with bytes }).node id).bytes = bytes := by
  rw [Files.node_modify]
  split
  · rfl
  · next hid =>
    have hle : f.nodes.length ≤ id := Nat.not_lt.1 fun hlt => hid ⟨rfl, hlt⟩
    have hnode := congrArg FileNode.bytes (f.node_of_length_le hle)
    rw [hnode, h hnode]
    rfl

/-- Nothing is found elsewhere when a file stays of its kind. -/
theorem Files.find_modify (f : Files) (id : FileId) (change : FileNode → FileNode)
    (h : ∀ n, (change n).kind = n.kind) : (f.modify id change).find = f.find := by
  have hkind := Files.see_node_modify FileNode.kind f id change h
  -- A path is followed by names and kinds alone, so each step of it goes where it went before.
  have hkindAt : (f.modify id change).kindAt? = f.kindAt? := by
    funext place
    rw [kindAt?, kindAt?]
    simp only [hkind]
    rfl
  have hstep : (f.modify id change).step = f.step := by
    funext place piece
    rw [step, step, hkindAt]
  funext path
  rw [find, find, locate, locate, hstep]
  rfl

end JobMonitor
