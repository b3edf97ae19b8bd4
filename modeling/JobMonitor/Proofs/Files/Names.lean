import JobMonitor.Proofs.Files.Host

set_option autoImplicit false

/-! # Names of files

Making a file adds to the files and to the names, and takes nothing away (`Files.Extends`): what a
path has led to it leads to from then on, and every file holds what it has held. A path leads to the
file that has been made or found under it. -/

namespace JobMonitor

/-- Every name leads to a file. -/
def Files.Sound (f : Files) : Prop :=
  ∀ place id, f.names.lookup place = some id → id < f.nodes.length

theorem Files.sound_of_forall {f : Files} (h : ∀ name ∈ f.names, name.2 < f.nodes.length) :
    f.Sound := by
  intro place id hid
  obtain ⟨before, after, hnames, -⟩ := List.lookup_eq_some_iff.1 hid
  exact h (place, id) (by rw [hnames]; simp)

/-- The file holds what the other one holds, the same is to be added to it, and it refuses that if the
    other one does. -/
structure FileNode.HoldsAs (n other : FileNode) : Prop where
  bytes : n.bytes = other.bytes
  unwritten : n.unwritten = other.unwritten
  refusal : n.refusal = other.refusal

theorem FileNode.HoldsAs.refl (n : FileNode) : n.HoldsAs n := ⟨rfl, rfl, rfl⟩

theorem FileNode.HoldsAs.trans {n other third : FileNode} (h : n.HoldsAs other)
    (h' : other.HoldsAs third) : n.HoldsAs third :=
  ⟨h.bytes.trans h'.bytes, h.unwritten.trans h'.unwritten, h.refusal.trans h'.refusal⟩

/-- The files with others added that hold nothing. -/
structure Files.Extends (f g : Files) : Prop where
  home : g.home = f.home
  length : f.nodes.length ≤ g.nodes.length
  node : ∀ id < f.nodes.length, g.node id = f.node id
  fresh : ∀ id, f.nodes.length ≤ id → (g.node id).HoldsAs default
  names : ∀ place id, f.names.lookup place = some id → g.names.lookup place = some id
  sound : f.Sound → g.Sound

namespace Files.Extends

variable {f g : Files}

theorem refl (f : Files) : f.Extends f where
  home := rfl
  length := Nat.le_refl _
  node _ _ := rfl
  fresh id h := by rw [f.node_of_length_le h]; exact .refl _
  names _ _ h := h
  sound h := h

theorem trans {k : Files} (h : f.Extends g) (h' : g.Extends k) : f.Extends k where
  home := h'.home.trans h.home
  length := Nat.le_trans h.length h'.length
  node id hid := (h'.node id (Nat.lt_of_lt_of_le hid h.length)).trans (h.node id hid)
  fresh id hid := by
    rcases Nat.lt_or_ge id g.nodes.length with hlt | hle
    · rw [h'.node id hlt]
      exact h.fresh id hid
    · exact h'.fresh id hle
  names place id hid := h'.names place id (h.names place id hid)
  sound hf := h'.sound (h.sound hf)

/-- No file holds anything else. -/
theorem holdsAs_node (h : f.Extends g) (id : FileId) : (g.node id).HoldsAs (f.node id) := by
  rcases Nat.lt_or_ge id f.nodes.length with hlt | hle
  · rw [h.node id hlt]
    exact .refl _
  · rw [f.node_of_length_le hle]
    exact h.fresh id hle

/-! ## Following a path -/

theorem kindAt? (h : f.Extends g) (hf : f.Sound) {place : Place} {kind : FileKind}
    (hkind : f.kindAt? place = some kind) : g.kindAt? place = some kind := by
  rw [Files.kindAt?, Option.map_eq_some_iff] at hkind ⊢
  obtain ⟨id, hid, rfl⟩ := hkind
  exact ⟨id, h.names place id hid, congrArg FileNode.kind (h.node id (hf place id hid))⟩

/-- Where a path could go on it still goes on. -/
theorem step (h : f.Extends g) (hf : f.Sound) {place next : Place} {piece : String}
    (hstep : f.step place piece = .ok next) : g.step place piece = .ok next := by
  rw [Files.step] at hstep ⊢
  split at hstep
  · cases hstep
  · next hdirectory =>
    have hdirectory := h.kindAt? hf (Decidable.of_not_not hdirectory)
    rw [if_neg (not_not_intro hdirectory)]
    split at hstep
    · next hidle => rwa [if_pos hidle]
    · next hidle =>
      rw [if_neg hidle]
      split at hstep
      · next hup => rwa [if_pos hup]
      · next hup =>
        rw [if_neg hup]
        split at hstep
        · cases hstep
        · next hlong =>
          rw [if_neg hlong]
          split at hstep
          · next hsome =>
            obtain ⟨kind, hkind⟩ := Option.isSome_iff_exists.1 hsome
            rwa [h.kindAt? hf hkind, Option.isSome_some, if_pos rfl]
          · cases hstep

theorem follow (h : f.Extends g) (hf : f.Sound) {pieces : List String} {place last : Place}
    (hpath : pieces.foldlM f.step place = .ok last) : pieces.foldlM g.step place = .ok last := by
  induction pieces generalizing place with
  | nil => exact hpath
  | cons piece rest ih =>
    rw [List.foldlM_cons] at hpath ⊢
    cases hnext : f.step place piece with
    | error e =>
      rw [hnext] at hpath
      cases hpath
    | ok next =>
      rw [hnext] at hpath
      rw [h.step hf hnext]
      exact ih hpath

theorem start (h : f.Extends g) (path : Path) : g.start path = f.start path := by
  rw [Files.start, Files.start, h.home]

/-- What a path has led to it still leads to. -/
theorem find (h : f.Extends g) (hf : f.Sound) {path : Path} {id : FileId}
    (hfind : f.find path = .ok id) : g.find path = .ok id := by
  rw [Files.find, Files.locate] at hfind ⊢
  rw [h.start]
  cases hstart : f.start path with
  | error e =>
    rw [hstart] at hfind
    cases hfind
  | ok found =>
    obtain ⟨place, pieces⟩ := found
    rw [hstart] at hfind
    simp only [bind, Except.bind] at hfind ⊢
    cases hlast : pieces.foldlM f.step place with
    | error e =>
      rw [hlast] at hfind
      cases hfind
    | ok last =>
      rw [hlast] at hfind
      rw [h.follow hf hlast]
      dsimp only at hfind ⊢
      cases hid : f.names.lookup last with
      | none =>
        rw [hid] at hfind
        cases hfind
      | some found =>
        rw [hid] at hfind
        rw [h.names last found hid]
        exact hfind

end Files.Extends

/-! ## Making files -/

theorem Files.lookup_of_kindAt? {f : Files} {place : Place} (h : ¬ (f.kindAt? place).isSome) :
    f.names.lookup place = none := by
  rw [kindAt?, Option.isSome_map] at h
  exact Option.not_isSome_iff_eq_none.1 h

theorem Files.node_add (f : Files) (place : Place) (node : FileNode) :
    (f.add place node).node f.nodes.length = node := by
  simp [Files.node, add]

/-- A file is added under a name that has led nowhere. -/
theorem Files.extends_add {f : Files} {place : Place} {node : FileNode}
    (hfree : f.names.lookup place = none) (hfresh : node.HoldsAs default) :
    f.Extends (f.add place node) where
  home := rfl
  length := by simp [add]
  node id hid := by simp [Files.node, add, List.getElem?_append_left hid]
  fresh id hid := by
    -- The file that has been added holds nothing, and behind it there is none.
    rcases Nat.eq_or_lt_of_le hid with rfl | hlt
    · rwa [f.node_add]
    · rw [Files.node_of_length_le _ (by simpa [add] using Nat.succ_le_of_lt hlt)]
      exact .refl _
  names other id hid := by
    have hne : (other == place) = false := by
      rw [beq_eq_false_iff_ne]
      rintro rfl
      rw [hfree] at hid
      cases hid
    rw [add, List.lookup_cons, hne]
    exact hid
  sound hf other id hid := by
    have hlength : (f.add place node).nodes.length = f.nodes.length + 1 := by simp [add]
    rw [hlength]
    rw [add, List.lookup_cons] at hid
    split at hid
    · rw [← Option.some.inj hid]
      exact Nat.lt_succ_self _
    · exact Nat.lt_succ_of_lt (hf other id hid)

/-- The files with others added, each under a name that has led nowhere and each with nothing in it. -/
inductive Files.Grows (f : Files) : Files → Prop
  | refl : f.Grows f
  | add {g : Files} {place : Place} {kind : FileKind} (h : f.Grows g)
      (hfree : g.names.lookup place = none) : f.Grows (g.add place { kind })

theorem Files.Grows.trans {f g k : Files} (h : f.Grows g) (h' : g.Grows k) : f.Grows k := by
  induction h' with
  | refl => exact h
  | add _ hfree ih => exact ih.add hfree

theorem Files.Grows.extends {f g : Files} (h : f.Grows g) : f.Extends g := by
  induction h with
  | refl => exact .refl f
  | add _ hfree ih => exact ih.trans (Files.extends_add hfree ⟨rfl, rfl, rfl⟩)

theorem Files.grows_of_make {f g : Files} {path : Path} {kind : FileKind}
    (h : f.make path kind = .ok g) : f.Grows g := by
  rw [make] at h
  cases hnew : f.newName path with
  | error e =>
    rw [hnew] at h
    cases h
  | ok new =>
    rw [hnew] at h
    simp only [bind, Except.bind] at h
    split at h
    · cases h
    · next hfree =>
      split at h
      · cases h
      · rw [← Except.ok.inj h]
        exact .add .refl (Files.lookup_of_kindAt? fun hsome => hfree (.inr (.inr hsome)))

theorem Files.grows_makeDirectories (f : Files) (paths : List Path) :
    f.Grows (f.makeDirectories paths).2 := by
  induction paths generalizing f with
  | nil => exact .refl
  | cons path parents ih =>
    rw [makeDirectories]
    split
    · next g hmake => exact Files.grows_of_make hmake
    · have hparents := ih f
      rcases hmade : f.makeDirectories parents with ⟨result, g⟩
      rw [hmade] at hparents
      cases result with
      | error e => exact hparents
      | ok _ =>
        dsimp only
        split
        · next k hmake => exact hparents.trans (Files.grows_of_make hmake)
        · split <;> exact hparents
    · dsimp only
      split <;> exact .refl

theorem Files.extends_of_make {f g : Files} {path : Path} {kind : FileKind}
    (h : f.make path kind = .ok g) : f.Extends g :=
  (Files.grows_of_make h).extends

theorem Files.extends_makeDirectories (f : Files) (paths : List Path) :
    f.Extends (f.makeDirectories paths).2 :=
  (f.grows_makeDirectories paths).extends

/-! ## Where a file is made -/

theorem Files.of_newName {f : Files} {path : Path} {new : NewName} (h : f.newName path = .ok new) :
    ∃ place pieces, f.start path = .ok (place, pieces) ∧
      let named := (pieces.reverse.dropWhile (· = "")).reverse
      named.dropLast.foldlM f.step place = .ok new.directory ∧
        f.kindAt? new.directory = some .directory ∧ new.name = named.getLast?.getD "." ∧
        new.name.utf8ByteSize ≤ maxNameBytes ∧ new.slashed = decide (named.length < pieces.length) := by
  rw [newName] at h
  cases hstart : f.start path with
  | error e =>
    rw [hstart] at h
    cases h
  | ok found =>
    obtain ⟨place, pieces⟩ := found
    rw [hstart] at h
    simp only [bind, Except.bind] at h
    cases hdirectory : ((pieces.reverse.dropWhile (· = "")).reverse.dropLast).foldlM f.step place with
    | error e =>
      rw [hdirectory] at h
      cases h
    | ok directory =>
      rw [hdirectory] at h
      dsimp only at h
      split at h
      · cases h
      · next hkind =>
        split at h
        · cases h
        · next hlong =>
          obtain rfl := Except.ok.inj h
          exact ⟨place, pieces, rfl, hdirectory, Decidable.of_not_not hkind, rfl,
            Nat.not_lt.1 hlong, rfl⟩

/-- Nothing is cut off at the end of a list that becomes no shorter. -/
theorem reverse_dropWhile_reverse {α : Type} (p : α → Bool) (l : List α)
    (h : ¬ (l.reverse.dropWhile p).reverse.length < l.length) :
    (l.reverse.dropWhile p).reverse = l := by
  have hsuffix := List.dropWhile_suffix p (l := l.reverse)
  rw [List.length_reverse] at h
  rw [hsuffix.eq_of_length_le (by rw [List.length_reverse]; omega), List.reverse_reverse]

/-- A path to a new name goes to the directory first and then one step on. -/
theorem Files.exists_of_newName {f : Files} {path : Path} {new : NewName}
    (h : f.newName path = .ok new) (hslashed : new.slashed = false)
    (hname : isIdlePiece new.name = false) :
    ∃ place pieces, f.start path = .ok (place, pieces ++ [new.name]) ∧
      pieces.foldlM f.step place = .ok new.directory ∧
      f.kindAt? new.directory = some .directory ∧ new.name.utf8ByteSize ≤ maxNameBytes := by
  obtain ⟨place, pieces, hstart, hdirectory, hkind, hlast, hlong, hshorter⟩ := Files.of_newName h
  -- No slash follows the name, so that all pieces are there.
  rw [hshorter, decide_eq_false_iff_not] at hslashed
  rw [reverse_dropWhile_reverse _ pieces hslashed] at hdirectory hlast
  rcases List.eq_nil_or_concat pieces with rfl | ⟨front, last, rfl⟩
  · rw [hlast] at hname
    exact absurd hname (by decide)
  · rw [List.concat_eq_append] at hstart hdirectory hlast
    rw [List.getLast?_concat, Option.getD_some] at hlast
    rw [List.dropLast_concat] at hdirectory
    rw [hlast] at hlong ⊢
    exact ⟨place, front, hstart, hdirectory, hkind, hlong⟩

/-- A path to a name leads to what is there under the name. -/
theorem Files.find_of_newName {f g : Files} {path : Path} {new : NewName} {id : FileId}
    (hf : f.Sound) (hfg : f.Extends g) (h : f.newName path = .ok new) (hslashed : new.slashed = false)
    (hname : isIdlePiece new.name = false) (hup : new.name ≠ "..")
    (hid : g.names.lookup (new.directory ++ [new.name]) = some id) : g.find path = .ok id := by
  obtain ⟨place, pieces, hstart, hfollow, hkind, hlong⟩ := Files.exists_of_newName h hslashed hname
  have hthere : (g.kindAt? (new.directory ++ [new.name])).isSome = true := by
    rw [kindAt?, hid]
    rfl
  have hlast : g.step new.directory new.name = .ok (new.directory ++ [new.name]) := by
    rw [step, if_neg (not_not_intro (hfg.kindAt? hf hkind)), hname, if_neg Bool.false_ne_true,
      if_neg hup, if_neg (Nat.not_lt.2 hlong), if_pos hthere]
  rw [find, locate, hfg.start, hstart]
  simp only [bind, Except.bind]
  rw [List.foldlM_append, hfg.follow hf hfollow]
  simp only [bind, Except.bind, List.foldlM_cons, List.foldlM_nil, hlast, pure, Except.pure, hid]

/-- The file that is found or made is where the path leads. -/
theorem Files.grows_of_findOrMake {f g : Files} {path : Path} {id : FileId}
    (h : f.findOrMake path = .ok (id, g)) :
    f.Grows g ∧ (f.Sound → g.find path = .ok id) := by
  rw [findOrMake] at h
  cases hnew : f.newName path with
  | error e =>
    rw [hnew] at h
    cases h
  | ok new =>
    rw [hnew] at h
    simp only [bind, Except.bind] at h
    split at h
    · cases h
    · next hnamed =>
      simp only [not_or, Bool.not_eq_true] at hnamed
      obtain ⟨hslashed, hname, hup⟩ := hnamed
      split at h
      · next found hfound =>
        split at h
        · cases h
        · obtain ⟨rfl, rfl⟩ := Prod.mk.inj (Except.ok.inj h)
          exact ⟨.refl, fun hf => Files.find_of_newName hf (.refl f) hnew hslashed hname hup hfound⟩
      · next hfree =>
        obtain ⟨rfl, rfl⟩ := Prod.mk.inj (Except.ok.inj h)
        have hadd := @Files.Grows.add f f _ .regular .refl hfree
        refine ⟨hadd, fun hf =>
          Files.find_of_newName hf hadd.extends hnew hslashed hname hup ?_⟩
        rw [add, List.lookup_cons, beq_self_eq_true]

/-- The file that is found or made is where the path leads, and no other file is touched. -/
theorem Files.of_findOrMake {f g : Files} {path : Path} {id : FileId}
    (h : f.findOrMake path = .ok (id, g)) :
    f.Extends g ∧ (f.Sound → g.find path = .ok id) :=
  ⟨(Files.grows_of_findOrMake h).1.extends, (Files.grows_of_findOrMake h).2⟩

/-- What a path leads to is there. -/
theorem Files.lt_length_of_find {f : Files} (hf : f.Sound) {path : Path} {id : FileId}
    (h : f.find path = .ok id) : id < f.nodes.length := by
  rw [find] at h
  cases hplace : f.locate path with
  | error e =>
    rw [hplace] at h
    cases h
  | ok place =>
    rw [hplace] at h
    simp only [bind, Except.bind] at h
    split at h
    · next found hfound =>
      rw [← Except.ok.inj h]
      exact hf place found hfound
    · cases h

/-! ## On a host -/

section

variable {ε : Type} (wrap : OsError → ε) {path : Path} {h h' : Host}

theorem Host.extends_makeParents (path : Path) (h : Host) :
    h.files.Extends (HostAttempt.runOn (Host.makeParents wrap path) h).2.files := by
  rw [makeParents]
  cases path.directory? with
  | none => exact .refl _
  | some directory =>
    have hmade := h.files.extends_makeDirectories directory.ancestors
    have hget : HostAttempt.runOn (get : HostAttempt ε Host) h = (.ok h, h) := rfl
    rw [HostAttempt.runOn_bind, hget]
    dsimp only
    rcases hresult : h.files.makeDirectories directory.ancestors with ⟨result, files⟩
    rw [hresult] at hmade
    cases result with
    | ok _ => exact hmade
    | error e => exact hmade

theorem Host.of_findOrMake {file : FileId}
    (hok : HostAttempt.runOn (Host.findOrMake wrap path) h = (.ok file, h')) :
    h.files.Extends h'.files ∧ (h.files.Sound → h'.files.find path = .ok file) := by
  obtain ⟨⟨id, files⟩, h₁, hask, hok⟩ := HostAttempt.exists_of_runOn_bind hok
  rw [HostAttempt.runOn_ask] at hask
  obtain ⟨hresult, rfl⟩ := Prod.mk.inj hask
  have hdone : ((.ok id : Except ε FileId), { h with files }) = (.ok file, h') := hok
  obtain ⟨hid, rfl⟩ := Prod.mk.inj hdone
  obtain rfl := Except.ok.inj hid
  cases hfound : h.files.findOrMake path with
  | error e =>
    rw [hfound] at hresult
    cases hresult
  | ok found =>
    rw [hfound] at hresult
    obtain rfl := Except.ok.inj hresult
    exact Files.of_findOrMake hfound

/-- What could not be found or made has changed nothing. -/
theorem Host.extends_findOrMake (path : Path) (h : Host) :
    h.files.Extends (HostAttempt.runOn (Host.findOrMake wrap path) h).2.files := by
  rcases hrun : HostAttempt.runOn (Host.findOrMake wrap path) h with ⟨result, h'⟩
  cases result with
  | ok file => exact (Host.of_findOrMake wrap hrun).1
  | error e =>
    rw [Host.findOrMake, HostAttempt.runOn_bind, HostAttempt.runOn_ask] at hrun
    cases hfound : h.files.findOrMake path with
    | error cause =>
      rw [hfound] at hrun
      rw [← congrArg Prod.snd hrun]
      exact .refl _
    | ok found =>
      rw [hfound] at hrun
      have hdone : ((.ok found.1 : Except ε FileId), { h with files := found.2 }) = (.error e, h') :=
        hrun
      cases congrArg Prod.fst hdone

end

/-- Changing a file moves no name. -/
theorem Files.Sound.modify {f : Files} (h : f.Sound) (id : FileId) (change : FileNode → FileNode) :
    (f.modify id change).Sound := by
  intro place other hother
  rw [Files.modify, List.length_modify]
  exact h place other hother

/-! ## Attempts that keep names -/

/-- Whatever becomes of the attempt, every name leads to a file if every name did. -/
def HostAttempt.KeepsSound {ε α : Type} (x : HostAttempt ε α) : Prop :=
  ∀ h : Host, h.files.Sound → (HostAttempt.runOn x h).2.files.Sound

namespace HostAttempt

variable {ε α β : Type}

/-- An attempt that leaves the files as they are keeps the names. -/
theorem keepsSound_of_files {x : HostAttempt ε α}
    (h : ∀ host, (HostAttempt.runOn x host).2.files = host.files) : KeepsSound x := by
  intro host hsound
  rwa [h host]

theorem KeepsSound.bind {x : HostAttempt ε α} {f : α → HostAttempt ε β} (hx : KeepsSound x)
    (hf : ∀ a, KeepsSound (f a)) : KeepsSound (x >>= f) := by
  intro h hsound
  have hfirst := hx h hsound
  rw [HostAttempt.runOn_bind]
  rcases hrun : HostAttempt.runOn x h with ⟨result, h'⟩
  rw [hrun] at hfirst
  cases result with
  | error e => exact hfirst
  | ok a => exact hf a h' hfirst

theorem keepsSound_pure (a : α) : KeepsSound (pure a : HostAttempt ε α) :=
  keepsSound_of_files fun _ => rfl

theorem keepsSound_throw (e : ε) : KeepsSound (throw e : HostAttempt ε α) :=
  keepsSound_of_files fun _ => rfl

theorem keepsSound_ask (wrap : OsError → ε) (question : Files → Except OsError α) :
    KeepsSound (Host.ask wrap question) :=
  keepsSound_of_files fun h => by rw [HostAttempt.runOn_ask]

theorem keepsSound_makeParents (wrap : OsError → ε) (path : Path) :
    KeepsSound (Host.makeParents wrap path) :=
  fun h hsound => (Host.extends_makeParents wrap path h).sound hsound

theorem keepsSound_findOrMake (wrap : OsError → ε) (path : Path) :
    KeepsSound (Host.findOrMake wrap path) :=
  fun h hsound => (Host.extends_findOrMake wrap path h).sound hsound

end HostAttempt

end JobMonitor
