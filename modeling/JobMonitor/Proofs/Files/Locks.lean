import JobMonitor.Channel.Error
import JobMonitor.Proofs.Files.Names

set_option autoImplicit false

/-! # What leaves locks alone

Almost nothing that is done to files has to do with locks. Making files adds some that nobody has
locked, and using a pipe changes no regular file. `Files.Spares` is what all of it has in common: no
lock is taken or released, regular files keep what they hold, and what has been found is found again.
Nor does any of it fail because a lock is held (`HostAttempt.SparesLocks`). -/

namespace JobMonitor

/-! ## Files -/

/-- Nothing has been done to locks and to the regular files that have them. -/
structure Files.Spares (f g : Files) : Prop where
  sound : f.Sound → g.Sound
  find : f.Sound → ∀ path id, f.find path = .ok id → g.find path = .ok id
  locked : ∀ id, (g.node id).locked = (f.node id).locked
  regular : ∀ id, (f.node id).kind = .regular →
    (g.node id).kind = .regular ∧ (g.node id).bytes = (f.node id).bytes

namespace Files.Spares

variable {f g k : Files}

theorem refl (f : Files) : f.Spares f where
  sound h := h
  find _ _ _ h := h
  locked _ := rfl
  regular _ h := ⟨h, rfl⟩

theorem trans (h : f.Spares g) (h' : g.Spares k) : f.Spares k where
  sound hf := h'.sound (h.sound hf)
  find hf path id hfind := h'.find (h.sound hf) path id (h.find hf path id hfind)
  locked id := (h'.locked id).trans (h.locked id)
  regular id hid := by
    obtain ⟨hkind, hbytes⟩ := h.regular id hid
    obtain ⟨hkind', hbytes'⟩ := h'.regular id hkind
    exact ⟨hkind', hbytes'.trans hbytes⟩

/-- A change to a file that keeps its kind and its lock, and what it holds if it is regular. -/
theorem modify (f : Files) (id : FileId) (change : FileNode → FileNode)
    (hkind : ∀ n, (change n).kind = n.kind) (hlocked : ∀ n, (change n).locked = n.locked)
    (hbytes : ∀ n, n.kind = .regular → (change n).bytes = n.bytes) :
    f.Spares (f.modify id change) where
  sound h := h.modify id change
  find _ path other h := by rwa [f.find_modify id change hkind]
  locked other := f.see_node_modify FileNode.locked id change hlocked other
  regular other h := by
    refine ⟨(f.see_node_modify FileNode.kind id change hkind other).trans h, ?_⟩
    rw [f.node_modify]
    split
    · exact hbytes _ h
    · rfl

end Files.Spares

/-- No file that is added is locked. -/
theorem Files.Grows.locked {f g : Files} (h : f.Grows g) (id : FileId) :
    (g.node id).locked = (f.node id).locked := by
  induction h with
  | refl => rfl
  | @add g place kind _ _ ih =>
    rw [← ih]
    rcases Nat.lt_trichotomy id g.nodes.length with hlt | rfl | hlt
    · rw [Files.node, Files.add, List.getElem?_append_left hlt, Files.node]
    · rw [g.node_add, g.node_of_length_le (Nat.le_refl _)]
      rfl
    · have hlength : (g.add place { kind }).nodes.length ≤ id := by
        simpa [Files.add] using Nat.succ_le_of_lt hlt
      rw [Files.node_of_length_le _ hlength, g.node_of_length_le (Nat.le_of_lt hlt)]

theorem Files.Grows.spares {f g : Files} (h : f.Grows g) : f.Spares g where
  sound := h.extends.sound
  find hf _ _ := h.extends.find hf
  locked := h.locked
  regular id hid := by
    -- A number without a file does not stand for a regular one.
    have hlt : id < f.nodes.length := by
      rcases Nat.lt_or_ge id f.nodes.length with hlt | hle
      · exact hlt
      · rw [f.node_of_length_le hle] at hid
        cases hid
    rw [h.extends.node id hlt]
    exact ⟨hid, rfl⟩

/-! ## Errors -/

/-- The answer is not that somebody holds a lock. -/
def NotLockHeld {α : Type} (answer : Except OsError α) : Prop :=
  ∀ path, answer ≠ .error (.lockHeld path)

namespace NotLockHeld

variable {α β : Type}

theorem ok (a : α) : NotLockHeld (.ok a) := fun _ h => by cases h

theorem error {e : OsError} (h : ∀ path, e ≠ .lockHeld path) :
    NotLockHeld (.error e : Except OsError α) := fun path he => h path (Except.error.inj he)

theorem bind {answer : Except OsError α} {f : α → Except OsError β} (h : NotLockHeld answer)
    (hf : ∀ a, NotLockHeld (f a)) : NotLockHeld (answer >>= f) := by
  cases answer with
  | ok a => exact hf a
  | error e => exact error fun path he => h path (congrArg Except.error he)

theorem ite {c : Prop} [Decidable c] {answer other : Except OsError α} (h : NotLockHeld answer)
    (hother : NotLockHeld other) : NotLockHeld (if c then answer else other) := by
  split
  · exact h
  · exact hother

/-- What is not refused for one reason goes on. -/
theorem refuse_or {c : Prop} [Decidable c] {e : OsError} {rest : Except OsError α}
    (he : ∀ path, e ≠ .lockHeld path) (hrest : NotLockHeld rest) :
    NotLockHeld (if c then (.error e : Except OsError PUnit) >>= fun _ => rest else rest) :=
  .ite ((error he).bind fun _ => hrest) hrest

theorem foldlM {f : β → α → Except OsError β} (hf : ∀ b a, NotLockHeld (f b a)) (l : List α) (b : β) :
    NotLockHeld (l.foldlM f b) := by
  induction l generalizing b with
  | nil => exact ok b
  | cons a rest ih =>
    rw [List.foldlM_cons]
    exact (hf b a).bind ih

end NotLockHeld

theorem Files.notLockHeld_start (f : Files) (path : Path) : NotLockHeld (f.start path) :=
  .ite (.error nofun) (.ite (.error nofun) (.ite (.error nofun) (.ok _)))

theorem Files.notLockHeld_step (f : Files) (place : Place) (piece : String) :
    NotLockHeld (f.step place piece) :=
  .ite (.error nofun) (.ite (.ok _) (.ite (.ok _) (.ite (.error nofun)
    (.ite (.ok _) (.error nofun)))))

theorem Files.notLockHeld_locate (f : Files) (path : Path) : NotLockHeld (f.locate path) :=
  (f.notLockHeld_start path).bind fun _ => .foldlM f.notLockHeld_step _ _

theorem Files.notLockHeld_find (f : Files) (path : Path) : NotLockHeld (f.find path) := by
  refine (f.notLockHeld_locate path).bind fun place => ?_
  cases f.names.lookup place with
  | some id => exact .ok id
  | none => exact .error nofun

theorem Files.notLockHeld_kind (f : Files) (path : Path) : NotLockHeld (f.kind path) := by
  intro p h
  rw [kind] at h
  cases hfind : f.find path with
  | ok id =>
    rw [hfind] at h
    cases h
  | error e =>
    rw [hfind] at h
    exact f.notLockHeld_find path p (hfind.trans (congrArg Except.error (Except.error.inj h)))

theorem Files.notLockHeld_newName (f : Files) (path : Path) : NotLockHeld (f.newName path) :=
  (f.notLockHeld_start path).bind fun _ => (NotLockHeld.foldlM f.notLockHeld_step _ _).bind
    fun _ => .refuse_or nofun (.refuse_or nofun (.ok _))

theorem Files.notLockHeld_make (f : Files) (path : Path) (kind : FileKind) :
    NotLockHeld (f.make path kind) :=
  (f.notLockHeld_newName path).bind fun _ => .refuse_or nofun (.refuse_or nofun (.ok _))

theorem Files.notLockHeld_findOrMake (f : Files) (path : Path) :
    NotLockHeld (f.findOrMake path) := by
  refine (f.notLockHeld_newName path).bind fun new => .refuse_or nofun ?_
  dsimp only
  cases f.names.lookup (new.directory ++ [new.name]) with
  | some id => exact .ite (.error nofun) (.ok _)
  | none => exact .ok _

theorem Files.notLockHeld_makeDirectories (f : Files) (paths : List Path) :
    NotLockHeld (f.makeDirectories paths).1 := by
  induction paths generalizing f with
  | nil => exact .ok ()
  | cons path parents ih =>
    have hmake (f : Files) {e : OsError} (he : f.make path .directory = .error e) :
        NotLockHeld (.error e : Except OsError Unit) :=
      .error fun p hp => f.notLockHeld_make path .directory p (he.trans (congrArg _ hp))
    rw [makeDirectories]
    split
    · exact .ok ()
    · have hparents := ih f
      rcases hmade : f.makeDirectories parents with ⟨result, g⟩
      rw [hmade] at hparents
      cases result with
      | error e => exact hparents
      | ok _ =>
        dsimp only
        split
        · exact .ok ()
        · next e he =>
          split
          · exact .ok ()
          · exact hmake g he
    · next e _ he =>
      dsimp only
      split
      · exact .ok ()
      · exact hmake f he

/-! ## Attempts -/

/-- A channel cannot be used because somebody holds its lock. -/
def ChannelError.isLockHeld : ChannelError → Bool
  | .unavailable _ (.lockHeld _) => true
  | _ => false

/-- The attempt has nothing to do with locks on this host. If it fails, the channel is unavailable for
    another reason. -/
structure HostAttempt.SparesLocks {α : Type} (x : HostAttempt ChannelError α) (h : Host) : Prop where
  files : h.files.Spares (HostAttempt.runOn x h).2.files
  process : (HostAttempt.runOn x h).2.process = h.process
  error : ∀ e, (HostAttempt.runOn x h).1 = .error e → e.isUnavailable = true ∧ e.isLockHeld = false

namespace HostAttempt

variable {α β : Type} {x : HostAttempt ChannelError α} {h : Host}

theorem SparesLocks.bind {f : α → HostAttempt ChannelError β} (hx : x.SparesLocks h)
    (hf : ∀ a h', HostAttempt.runOn x h = (.ok a, h') → (f a).SparesLocks h') :
    SparesLocks (x >>= f) h := by
  have hfiles := hx.files
  have hprocess := hx.process
  have herror := hx.error
  rcases hrun : HostAttempt.runOn x h with ⟨result, h'⟩
  rw [hrun] at hfiles hprocess herror
  have hbind := HostAttempt.runOn_bind x f h
  rw [hrun] at hbind
  cases result with
  | error e =>
    have hfail : HostAttempt.runOn (x >>= f) h = (.error e, h') := hbind
    constructor
    · rw [hfail]
      exact hfiles
    · rw [hfail]
      exact hprocess
    · rw [hfail]
      exact fun e' he' => herror e' (congrArg Except.error (Except.error.inj he'))
  | ok a =>
    have hrest : HostAttempt.runOn (x >>= f) h = HostAttempt.runOn (f a) h' := hbind
    have ha := hf a h' hrun
    constructor
    · rw [hrest]
      exact hfiles.trans ha.files
    · rw [hrest]
      exact ha.process.trans hprocess
    · rw [hrest]
      exact ha.error

/-- An attempt may look at the host first. -/
theorem SparesLocks.get_bind {f : Host → HostAttempt ChannelError α} (hf : (f h).SparesLocks h) :
    SparesLocks (do f (← get)) h := ⟨hf.files, hf.process, hf.error⟩

/-- An attempt may say something last. -/
theorem sparesLocks_say (level : LogLevel) (message : String) :
    SparesLocks (Host.say level message : HostAttempt ChannelError Unit) h :=
  ⟨.refl _, rfl, fun e he => by cases he⟩

theorem sparesLocks_pure (a : α) : SparesLocks (pure a) h := ⟨.refl _, rfl, fun e he => by cases he⟩

theorem sparesLocks_throw {e : ChannelError} (hunavailable : e.isUnavailable = true)
    (hlock : e.isLockHeld = false) : SparesLocks (throw e : HostAttempt ChannelError α) h := by
  refine ⟨.refl _, rfl, fun e' he' => ?_⟩
  obtain rfl : e = e' := Except.error.inj he'
  exact ⟨hunavailable, hlock⟩

theorem sparesLocks_throw_unavailable (path : Path) {e : OsError} (he : ∀ p, e ≠ .lockHeld p) :
    SparesLocks (throw (.unavailable path e) : HostAttempt ChannelError α) h := by
  refine sparesLocks_throw rfl ?_
  cases e with
  | lockHeld p => exact absurd rfl (he p)
  | _ => rfl

theorem sparesLocks_ask (path : Path) {question : Files → Except OsError α}
    (hanswer : NotLockHeld (question h.files)) :
    SparesLocks (Host.ask (.unavailable path) question) h := by
  rw [Host.ask]
  apply SparesLocks.get_bind
  cases hquestion : question h.files with
  | ok a => exact sparesLocks_pure a
  | error e => exact sparesLocks_throw_unavailable path fun p hp => hanswer p (hp ▸ hquestion)

/-- Files may be exchanged for more of them. -/
theorem sparesLocks_modify {files : Files} (hfiles : h.files.Spares files) :
    SparesLocks (modify fun h => { h with files } : HostAttempt ChannelError Unit) h :=
  ⟨hfiles, rfl, fun e he => by cases he⟩

theorem sparesLocks_modifyFile (id : FileId) {change : FileNode → FileNode}
    (hkind : ∀ n, (change n).kind = n.kind) (hlocked : ∀ n, (change n).locked = n.locked)
    (hbytes : ∀ n, n.kind = .regular → (change n).bytes = n.bytes) :
    SparesLocks (Host.modifyFile id change : HostAttempt ChannelError Unit) h :=
  ⟨.modify h.files id change hkind hlocked hbytes, rfl, fun e he => by cases he⟩

theorem sparesLocks_makeParents (path other : Path) :
    SparesLocks (Host.makeParents (.unavailable path) other) h := by
  rw [Host.makeParents]
  cases other.directory? with
  | none => exact sparesLocks_pure ()
  | some directory =>
    have hgrows := h.files.grows_makeDirectories directory.ancestors
    have hanswer := h.files.notLockHeld_makeDirectories directory.ancestors
    apply SparesLocks.get_bind
    rcases hmade : h.files.makeDirectories directory.ancestors with ⟨result, files⟩
    rw [hmade] at hgrows hanswer
    refine (sparesLocks_modify hgrows.spares).bind fun _ _ _ => ?_
    cases result with
    | ok _ => exact sparesLocks_pure ()
    | error e =>
      exact sparesLocks_throw_unavailable path fun p hp => hanswer p (congrArg Except.error hp)

theorem sparesLocks_findOrMake (path other : Path) :
    SparesLocks (Host.findOrMake (.unavailable path) other) h := by
  rw [Host.findOrMake]
  refine (sparesLocks_ask path (h.files.notLockHeld_findOrMake other)).bind
    fun found h' hrun => ?_
  obtain ⟨id, files⟩ := found
  rw [HostAttempt.runOn_ask] at hrun
  obtain ⟨hanswer, rfl⟩ := Prod.mk.inj hrun
  have hfound : h.files.findOrMake other = .ok (id, files) := by
    cases hfind : h.files.findOrMake other with
    | ok found =>
      rw [hfind] at hanswer
      rw [Except.ok.inj hanswer]
    | error e =>
      rw [hfind] at hanswer
      cases hanswer
  exact (sparesLocks_modify (Files.grows_of_findOrMake hfound).1.spares).bind
    fun _ _ _ => sparesLocks_pure id

end HostAttempt

end JobMonitor
