import JobMonitor.Proofs.Channel.Lock

set_option autoImplicit false

/-! # One holder for each channel

Any number of processes may claim channels, give them up and use pipes, in any order. A channel is
claimed by its lock or by listening on it, and whoever succeeds holds it until it is dropped.
`Files.Guarded` is what remains true: the locked files are the lock files of the holders, each belongs to
one holder, is found beside the channel and names the process. So a channel that is held is refused to
all others, without anything being changed, and one that is not held is refused to nobody because of its
lock, whatever has become of it before (`one_holder`). -/

namespace JobMonitor

/-! ## Holders -/

/-- Somebody who has a channel to itself. -/
structure Holder where
  channel : Path
  process : Nat
  holding : Holding

/-- The file that is locked for the holder. -/
def Holder.lockFile (x : Holder) : FileId := x.holding.channelLock.file

/-- The lock file is found beside the channel, is locked and names the process. -/
structure Holder.Holds (x : Holder) (f : Files) : Prop where
  found : f.find (lockPath x.channel) = .ok x.lockFile
  regular : (f.node x.lockFile).kind = .regular
  locked : (f.node x.lockFile).locked = true
  owner : (f.node x.lockFile).bytes = ownerLine x.process

/-- The locked files are those of the holders, one each. -/
structure Files.Guarded (f : Files) (holders : List Holder) : Prop where
  sound : f.Sound
  held : ∀ x ∈ holders, x.Holds f
  apart : holders.Pairwise fun x y => x.lockFile ≠ y.lockFile
  taken : ∀ id, (f.node id).locked = true → ∃ x ∈ holders, x.lockFile = id

namespace Files.Guarded

variable {f g : Files} {holders : List Holder}

theorem spares (h : f.Guarded holders) (hspares : f.Spares g) : g.Guarded holders where
  sound := hspares.sound h.sound
  held x hx := by
    have hholds := h.held x hx
    obtain ⟨hkind, hbytes⟩ := hspares.regular _ hholds.regular
    exact
      { found := hspares.find h.sound _ _ hholds.found
        regular := hkind
        locked := (hspares.locked _).trans hholds.locked
        owner := hbytes.trans hholds.owner }
  apart := h.apart
  taken id hid := h.taken id ((hspares.locked id).symm.trans hid)

/-- The lock of a file that nobody has locked is taken. -/
theorem take (h : f.Guarded holders) {x : Holder}
    (hfound : f.find (lockPath x.channel) = .ok x.lockFile)
    (hfree : (f.node x.lockFile).locked = false) (hregular : (f.node x.lockFile).kind = .regular) :
    (f.modify x.lockFile (FileNode.lockedBy · x.process)).Guarded (x :: holders) := by
  have hlt := f.lt_length_of_find h.sound hfound
  have hfind := f.find_modify x.lockFile (FileNode.lockedBy · x.process) fun _ => rfl
  have hnode : (f.modify x.lockFile (FileNode.lockedBy · x.process)).node x.lockFile
      = (f.node x.lockFile).lockedBy x.process := by
    rw [f.node_modify, if_pos ⟨rfl, hlt⟩]
  have hother : ∀ id, x.lockFile ≠ id →
      (f.modify x.lockFile (FileNode.lockedBy · x.process)).node id = f.node id := fun id hid => by
    rw [f.node_modify, if_neg fun hsame => hid hsame.1]
  -- The file is none of those of the holders, since these are locked.
  have hapart : ∀ y ∈ holders, x.lockFile ≠ y.lockFile := by
    intro y hy hsame
    have hlocked := (h.held y hy).locked
    rw [← hsame, hfree] at hlocked
    cases hlocked
  refine ⟨h.sound.modify _ _, ?_, List.pairwise_cons.2 ⟨hapart, h.apart⟩, ?_⟩
  · intro y hy
    rcases List.mem_cons.1 hy with rfl | hy
    · refine ⟨hfind ▸ hfound, ?_, ?_, ?_⟩
      · rw [hnode]
        exact hregular
      · rw [hnode]
        rfl
      · rw [hnode]
        rfl
    · have hholds := h.held y hy
      have hsame := hother _ (hapart y hy)
      exact ⟨hfind ▸ hholds.found, hsame ▸ hholds.regular, hsame ▸ hholds.locked,
        hsame ▸ hholds.owner⟩
  · intro id hid
    by_cases hx : x.lockFile = id
    · exact ⟨x, List.mem_cons_self, hx⟩
    · rw [hother id hx] at hid
      obtain ⟨y, hy, hfile⟩ := h.taken id hid
      exact ⟨y, List.mem_cons_of_mem _ hy, hfile⟩

/-- A holder gives its lock back. -/
theorem release {front back : List Holder} {x : Holder} (h : f.Guarded (front ++ x :: back)) :
    (f.modify x.lockFile FileNode.unlocked).Guarded (front ++ back) := by
  obtain ⟨hapart, hrest⟩ := List.pairwise_cons.1
    ((List.pairwise_middle fun hne => hne.symm).1 h.apart)
  have hmem : ∀ y ∈ front ++ back, y ∈ front ++ x :: back := fun y hy => by
    rw [List.mem_append] at hy
    rw [List.mem_append, List.mem_cons]
    exact hy.imp_right .inr
  have hx := h.held x (List.mem_append_right _ List.mem_cons_self)
  have hlt := f.lt_length_of_find h.sound hx.found
  have hfind := f.find_modify x.lockFile FileNode.unlocked fun _ => rfl
  have hother : ∀ id, x.lockFile ≠ id →
      (f.modify x.lockFile FileNode.unlocked).node id = f.node id := fun id hid => by
    rw [f.node_modify, if_neg fun hsame => hid hsame.1]
  refine ⟨h.sound.modify _ _, fun y hy => ?_, hrest, fun id hid => ?_⟩
  · have hholds := h.held y (hmem y hy)
    have hsame := hother _ (hapart y hy)
    exact ⟨hfind ▸ hholds.found, hsame ▸ hholds.regular, hsame ▸ hholds.locked,
      hsame ▸ hholds.owner⟩
  · by_cases hfile : x.lockFile = id
    · rw [← hfile, f.node_modify, if_pos ⟨rfl, hlt⟩] at hid
      cases hid
    · rw [hother id hfile] at hid
      obtain ⟨y, hy, rfl⟩ := h.taken id hid
      refine ⟨y, ?_, rfl⟩
      rw [List.mem_append, List.mem_cons] at hy
      rw [List.mem_append]
      exact hy.imp_right fun hy => hy.resolve_left fun hyx => hfile (hyx ▸ rfl)

end Files.Guarded

/-! ## A machine with holders -/

/-- A machine and those who have channels to themselves. -/
structure Site where
  host : Host
  holders : List Holder

/-- A process claims a channel. -/
def Site.attempt (s : Site) (process : Nat) (channel : Path) (claim : Claim) :
    Except ChannelError Unit × Site :=
  match HostAttempt.runOn (claim.attempt channel) { s.host with process } with
  | (.ok holding, host) => (.ok (), { host, holders := ⟨channel, process, holding⟩ :: s.holders })
  | (.error e, host) => (.error e, { s with host })

/-- A holder gives up its channel. -/
def Site.drop (s : Site) (index : Nat) : Site :=
  match s.holders[index]? with
  | some x => { host := (x.holding.drop.run s.host).2, holders := s.holders.eraseIdx index }
  | none => s

/-- What happens on a machine. -/
inductive SiteEvent where
  | attempt (process : Nat) (channel : Path) (claim : Claim)
  | drop (index : Nat)
  /-- A pipe is written, read, opened or closed. -/
  | traffic (file : FileId) (bytes : Bytes) (readers writers : Nat)

/-- What is done to a file that is used as a pipe. Only a pipe can be. -/
def FileNode.withTraffic (n : FileNode) (bytes : Bytes) (readers writers : Nat) : FileNode :=
  if n.kind = .fifo then { n with bytes, readers, writers } else n

def Site.step (s : Site) : SiteEvent → Site
  | .attempt process channel claim => (s.attempt process channel claim).2
  | .drop index => s.drop index
  | .traffic file bytes readers writers =>
    { s with host := s.host.withFile file (FileNode.withTraffic · bytes readers writers) }

/-- What a machine comes to. -/
def Site.run (s : Site) (events : List SiteEvent) : Site := events.foldl Site.step s

/-- The files are as the holders need them. -/
def Site.IsGuarded (s : Site) : Prop := s.host.files.Guarded s.holders

/-! ## Claiming -/

section

variable {s : Site} {process : Nat} {channel : Path} {file : FileId} {h' : Host}

/-- The file of a lock belongs to a holder exactly if it is locked when it has been found. -/
theorem Site.IsGuarded.locked_iff (h : s.IsGuarded)
    (hfile : HostAttempt.runOn (ChannelLock.findFile channel) { s.host with process } = (.ok file, h')) :
    (h'.files.node file).locked = true ↔ ∃ x ∈ s.holders, x.lockFile = file := by
  have hspares := (ChannelLock.sparesLocks_findFile channel { s.host with process }).files
  rw [hfile] at hspares
  constructor
  · exact (h.spares hspares).taken file
  · rintro ⟨x, hx, rfl⟩
    exact ((h.spares hspares).held x hx).locked

/-- The lock is taken of a regular file that no holder has. -/
theorem Site.IsGuarded.runOn_acquire_of_free (h : s.IsGuarded)
    (hfile : HostAttempt.runOn (ChannelLock.findFile channel) { s.host with process } = (.ok file, h'))
    (hregular : (h'.files.node file).kind = .regular) (hfree : ∀ x ∈ s.holders, x.lockFile ≠ file) :
    ∃ h₁, HostAttempt.runOn (ChannelLock.acquire channel) { s.host with process }
        = (.ok ⟨lockPath channel, file⟩, h₁) ∧
      ∀ holding : Holding, holding.channelLock = ⟨lockPath channel, file⟩ →
        h₁.files.Guarded (⟨channel, process, holding⟩ :: s.holders) := by
  have hunlocked : (h'.files.node file).locked = false := by
    rw [Bool.eq_false_iff]
    intro hlocked
    obtain ⟨x, hx, hxfile⟩ := (h.locked_iff hfile).1 hlocked
    exact hfree x hx hxfile
  have hspared := ChannelLock.sparesLocks_findFile channel { s.host with process }
  have hspares := hspared.files
  have hprocess := hspared.process
  rw [hfile] at hspares hprocess
  have hacquire := ChannelLock.runOn_acquire channel { s.host with process }
  rw [hfile] at hacquire
  simp only [hunlocked, hregular, ne_eq, not_true_eq_false, if_false, Bool.false_eq_true] at hacquire
  refine ⟨_, hacquire, fun holding hlock => ?_⟩
  have hfound := @ChannelLock.of_findFile channel { s.host with process } h' file h.sound hfile
  have hlockFile : (⟨channel, process, holding⟩ : Holder).lockFile = file := by
    rw [Holder.lockFile, hlock]
  have htaken := @Files.Guarded.take _ _ (h.spares hspares) ⟨channel, process, holding⟩
  rw [hlockFile] at htaken
  have htaken := htaken hfound hunlocked hregular
  rw [show h'.process = process from hprocess]
  exact htaken

/-- What an attempt comes to: the file of the lock cannot be had, a holder has it, it is not a regular
    file, the channel is handed over, or its reading end cannot be opened. -/
inductive Site.Outcome (s : Site) (process : Nat) (channel : Path) (claim : Claim) :
    Except ChannelError Unit × Site → Prop
  | noFile {e : ChannelError} {h' : Host} (hunavailable : e.isUnavailable = true)
      (hfree : e.isLockHeld = false)
      (hfile : HostAttempt.runOn (ChannelLock.findFile channel) { s.host with process }
        = (.error e, h')) :
      s.Outcome process channel claim (.error e, { s with host := h' })
  | held {x : Holder} {h' : Host} (hx : x ∈ s.holders)
      (hfile : HostAttempt.runOn (ChannelLock.findFile channel) { s.host with process }
        = (.ok x.lockFile, h')) :
      s.Outcome process channel claim
        (.error (.unavailable channel (.lockHeld (lockPath channel))), { s with host := h' })
  | notRegular {file : FileId} {h' : Host}
      (hfile : HostAttempt.runOn (ChannelLock.findFile channel) { s.host with process }
        = (.ok file, h'))
      (hkind : (h'.files.node file).kind ≠ .regular) :
      s.Outcome process channel claim
        (.error (.unavailable channel .invalidArgument), { s with host := h' })
  | granted {file : FileId} {h' h'' : Host} {holding : Holding}
      (hfile : HostAttempt.runOn (ChannelLock.findFile channel) { s.host with process }
        = (.ok file, h'))
      (hfree : ∀ x ∈ s.holders, x.lockFile ≠ file)
      (hguarded : h''.files.Guarded (⟨channel, process, holding⟩ :: s.holders)) :
      s.Outcome process channel claim
        (.ok (), { host := h'', holders := ⟨channel, process, holding⟩ :: s.holders })
  | notOpened {file : FileId} {h' h'' : Host} {e : ChannelError} (hclaim : claim ≠ .acquire)
      (hunavailable : e.isUnavailable = true) (hfree : e.isLockHeld = false)
      (hfile : HostAttempt.runOn (ChannelLock.findFile channel) { s.host with process }
        = (.ok file, h'))
      (hnone : ∀ x ∈ s.holders, x.lockFile ≠ file)
      (hguarded : h''.files.Guarded s.holders) :
      s.Outcome process channel claim (.error e, { s with host := h'' })

theorem Site.attempt_of_error {claim : Claim} {e : ChannelError}
    (hrun : HostAttempt.runOn (claim.attempt channel) { s.host with process } = (.error e, h')) :
    s.attempt process channel claim = (.error e, { s with host := h' }) := by
  rw [Site.attempt, hrun]

theorem Site.attempt_of_ok {claim : Claim} {holding : Holding}
    (hrun : HostAttempt.runOn (claim.attempt channel) { s.host with process } = (.ok holding, h')) :
    s.attempt process channel claim
      = (.ok (), { host := h', holders := ⟨channel, process, holding⟩ :: s.holders }) := by
  rw [Site.attempt, hrun]

/-- **Every attempt comes to one of the five.** -/
theorem Site.IsGuarded.outcome (h : s.IsGuarded) (process : Nat) (channel : Path) (claim : Claim) :
    s.Outcome process channel claim (s.attempt process channel claim) := by
  have hspares := ChannelLock.sparesLocks_findFile channel { s.host with process }
  have hacquire := ChannelLock.runOn_acquire channel { s.host with process }
  rcases hfile : HostAttempt.runOn (ChannelLock.findFile channel) { s.host with process }
    with ⟨e | file, h'⟩
  · rw [hfile] at hacquire
    obtain ⟨hunavailable, hfree⟩ := hspares.error e (by rw [hfile])
    rw [Site.attempt_of_error (claim.attempt_of_refused hacquire)]
    exact .noFile hunavailable hfree hfile
  · rw [hfile] at hacquire
    dsimp only at hacquire
    by_cases hlocked : (h'.files.node file).locked = true
    · rw [if_pos hlocked] at hacquire
      obtain ⟨x, hx, rfl⟩ := (h.locked_iff hfile).1 hlocked
      rw [Site.attempt_of_error (claim.attempt_of_refused hacquire)]
      exact .held hx hfile
    · rw [if_neg hlocked] at hacquire
      by_cases hkind : (h'.files.node file).kind = .regular
      · have hfree : ∀ x ∈ s.holders, x.lockFile ≠ file := fun x hx hxfile =>
          hlocked ((h.locked_iff hfile).2 ⟨x, hx, hxfile⟩)
        obtain ⟨h₁, hlock, hguarded⟩ := h.runOn_acquire_of_free hfile hkind hfree
        obtain ⟨h₂, hspares₂, ⟨holding, hholding, hrun⟩ | ⟨e, hclaim, hunavailable, hnot, hrun⟩⟩ :=
          claim.attempt_cases hlock
        · rw [Site.attempt_of_ok hrun]
          exact .granted hfile hfree ((hguarded holding hholding).spares hspares₂)
        · rw [Site.attempt_of_error hrun]
          -- The lock that is given back is that of a holder who was there for a moment.
          have hmoment := (hguarded (.lockOnly ⟨lockPath channel, file⟩) rfl).spares hspares₂
          exact .notOpened hclaim hunavailable hnot hfile hfree
            (@Files.Guarded.release _ [] s.holders _ hmoment)
      · rw [if_pos hkind] at hacquire
        rw [Site.attempt_of_error (claim.attempt_of_refused hacquire)]
        exact .notRegular hfile hkind

end

/-! ## Steps and runs -/

theorem Site.IsGuarded.attempt {s : Site} (h : s.IsGuarded) (process : Nat) (channel : Path)
    (claim : Claim) : (s.attempt process channel claim).2.IsGuarded := by
  have hspares := (ChannelLock.sparesLocks_findFile channel { s.host with process }).files
  have houtcome := h.outcome process channel claim
  revert houtcome
  generalize s.attempt process channel claim = after
  rintro (⟨-, -, hfile⟩ | ⟨-, hfile⟩ | ⟨hfile, -⟩ | ⟨-, -, hguarded⟩ | ⟨-, -, -, -, -, hguarded⟩)
  · rw [hfile] at hspares
    exact h.spares hspares
  · rw [hfile] at hspares
    exact h.spares hspares
  · rw [hfile] at hspares
    exact h.spares hspares
  · exact hguarded
  · exact hguarded

theorem Site.IsGuarded.drop {s : Site} (h : s.IsGuarded) (index : Nat) : (s.drop index).IsGuarded := by
  rw [Site.drop]
  cases hx : s.holders[index]? with
  | none => exact h
  | some x =>
    obtain ⟨hindex, hget⟩ := List.getElem?_eq_some_iff.1 hx
    have hholders : s.holders = s.holders.take index ++ x :: s.holders.drop (index + 1) := by
      rw [← hget, ← List.drop_eq_getElem_cons hindex, List.take_append_drop]
    dsimp only [Site.IsGuarded]
    rw [List.eraseIdx_eq_take_drop_succ]
    cases hholding : x.holding with
    | lockOnly lock =>
      have hfile : x.lockFile = lock.file := by rw [Holder.lockFile, hholding]; rfl
      have hall : s.host.files.Guarded _ := h
      rw [hholders] at hall
      have hreleased := hall.release
      rw [hfile] at hreleased
      exact hreleased
    | listening l =>
      have hfile : x.lockFile = l.lock.file := by rw [Holder.lockFile, hholding]; rfl
      have hall : s.host.files.Guarded _ := h
      rw [hholders] at hall
      have hreleased := hall.release
      rw [hfile] at hreleased
      exact hreleased.spares (l.reader.spares_close (l.lock.release.run s.host).2)

theorem Site.IsGuarded.traffic {s : Site} (h : s.IsGuarded) (file : FileId) (bytes : Bytes)
    (readers writers : Nat) :
    (s.host.files.modify file (FileNode.withTraffic · bytes readers writers)).Guarded s.holders := by
  refine h.spares (.modify _ _ _ (fun n => ?_) (fun n => ?_) fun n hkind => ?_)
  · rw [FileNode.withTraffic]
    split <;> rfl
  · rw [FileNode.withTraffic]
    split <;> rfl
  · rw [FileNode.withTraffic, if_neg fun hfifo => by cases hkind.symm.trans hfifo]

theorem Site.IsGuarded.step {s : Site} (h : s.IsGuarded) (event : SiteEvent) :
    (s.step event).IsGuarded := by
  cases event with
  | attempt process channel claim => exact h.attempt process channel claim
  | drop index => exact h.drop index
  | traffic file bytes readers writers => exact h.traffic file bytes readers writers

theorem Site.IsGuarded.run {s : Site} (h : s.IsGuarded) (events : List SiteEvent) :
    (s.run events).IsGuarded := by
  induction events generalizing s with
  | nil => exact h
  | cons event rest ih => exact ih (h.step event)

/-- A machine on which no file is locked. -/
theorem Site.isGuarded_nil {host : Host} (hsound : host.files.Sound)
    (hfree : ∀ id, (host.files.node id).locked = false) : Site.IsGuarded ⟨host, []⟩ where
  sound := hsound
  held x hx := absurd hx List.not_mem_nil
  apart := .nil
  taken id hid := by
    rw [hfree id] at hid
    cases hid

/-! ## The law -/

section

variable {s : Site} {process : Nat} {channel : Path} {claim : Claim}

/-- A channel whose lock file a holder has is refused, and nothing that is there is changed. -/
theorem Site.IsGuarded.attempt_of_held (h : s.IsGuarded) {x : Holder} (hx : x ∈ s.holders)
    (hfind : s.host.files.find (lockPath channel) = .ok x.lockFile) :
    ∃ e, (s.attempt process channel claim).1 = .error e ∧ e.isUnavailable = true ∧
      (s.attempt process channel claim).2.holders = s.holders ∧
      s.host.files.Extends (s.attempt process channel claim).2.host.files := by
  have hextends := ChannelLock.extends_findFile channel { s.host with process }
  -- The file that is found now is the one that has been found before.
  have hsame : ∀ {file h'}, HostAttempt.runOn (ChannelLock.findFile channel)
      { s.host with process } = (.ok file, h') → x.lockFile = file := by
    intro file h' hfile
    have hfound := @ChannelLock.of_findFile channel { s.host with process } h' file h.sound hfile
    rw [hfile] at hextends
    exact Except.ok.inj ((hextends.find h.sound hfind).symm.trans hfound)
  have houtcome := h.outcome process channel claim
  revert houtcome
  generalize s.attempt process channel claim = after
  rintro (⟨hunavailable, -, hfile⟩ | ⟨-, hfile⟩ | ⟨hfile, -⟩ | ⟨hfile, hnone, -⟩ |
    ⟨-, -, -, hfile, hnone, -⟩)
  · rw [hfile] at hextends
    exact ⟨_, rfl, hunavailable, rfl, hextends⟩
  · rw [hfile] at hextends
    exact ⟨_, rfl, rfl, rfl, hextends⟩
  · rw [hfile] at hextends
    exact ⟨_, rfl, rfl, rfl, hextends⟩
  · exact absurd (hsame hfile) (hnone x hx)
  · exact absurd (hsame hfile) (hnone x hx)

/-- Who is refused gets nothing. It is refused because of the lock only if a holder has it. -/
theorem Site.IsGuarded.attempt_of_error (h : s.IsGuarded) {e : ChannelError}
    (herror : (s.attempt process channel claim).1 = .error e) :
    e.isUnavailable = true ∧ (s.attempt process channel claim).2.holders = s.holders ∧
      (e.isLockHeld = true → ∃ x ∈ s.holders,
        (s.attempt process channel claim).2.host.files.find (lockPath channel)
          = .ok x.lockFile) := by
  have houtcome := h.outcome process channel claim
  revert houtcome herror
  generalize s.attempt process channel claim = after
  rintro herror (⟨hunavailable, hfree, -⟩ | ⟨hx, hfile⟩ | - | - | ⟨-, hunavailable, hfree, -, -, -⟩)
  · obtain rfl := Except.error.inj herror
    exact ⟨hunavailable, rfl, fun hlock => by rw [hfree] at hlock; cases hlock⟩
  · obtain rfl := Except.error.inj herror
    exact ⟨rfl, rfl, fun _ => ⟨_, hx,
      @ChannelLock.of_findFile channel { s.host with process } _ _ h.sound hfile⟩⟩
  · obtain rfl := Except.error.inj herror
    exact ⟨rfl, rfl, fun hlock => by cases hlock⟩
  · cases herror
  · obtain rfl := Except.error.inj herror
    exact ⟨hunavailable, rfl, fun hlock => by rw [hfree] at hlock; cases hlock⟩

/-- Who claims a channel whose lock file no holder has gets the lock, and keeps it unless the reading end
    cannot be opened. -/
theorem Site.IsGuarded.attempt_of_free (h : s.IsGuarded) {file : FileId} {h' : Host}
    (hfile : HostAttempt.runOn (ChannelLock.findFile channel) { s.host with process } = (.ok file, h'))
    (hregular : (h'.files.node file).kind = .regular) (hfree : ∀ x ∈ s.holders, x.lockFile ≠ file) :
    (s.attempt process channel claim).1 = .ok () ∨
      claim ≠ .acquire ∧ ∃ e, (s.attempt process channel claim).1 = .error e ∧
        e.isLockHeld = false := by
  have houtcome := h.outcome process channel claim
  revert houtcome
  generalize s.attempt process channel claim = after
  rintro (⟨-, -, hfile'⟩ | ⟨hx, hfile'⟩ | ⟨hfile', hkind⟩ | - | ⟨hclaim, -, hnot, -, -, -⟩)
  · rw [hfile] at hfile'
    cases hfile'
  · rw [hfile] at hfile'
    exact absurd (Except.ok.inj (Prod.mk.inj hfile').1).symm (hfree _ hx)
  · rw [hfile] at hfile'
    cases hfile'
    exact absurd hregular hkind
  · exact .inl rfl
  · exact .inr ⟨hclaim, _, rfl, hnot⟩

end

/-- **One holder for each channel.** Whatever has happened on a machine where nothing was locked, no two
    holders have the same channel or the same lock file; the lock file of a holder is found beside its
    channel, is locked and holds the line of its process; and no other file is locked. Who claims a
    channel that is held, under its own path or any other that leads to the same lock file, is told that
    it is unavailable; the holders stay, and so does every file that is there. Who is refused because
    of a lock has found the lock file of a holder. And who finds a regular lock file that no holder has
    gets the channel, or fails to open it for another reason. -/
theorem one_holder {host : Host} (hsound : host.files.Sound)
    (hfree : ∀ id, (host.files.node id).locked = false) (events : List SiteEvent) :
    let s := Site.run ⟨host, []⟩ events
    (s.holders.Pairwise fun x y => x.channel ≠ y.channel ∧ x.lockFile ≠ y.lockFile) ∧
    (∀ x ∈ s.holders, s.host.files.find (lockPath x.channel) = .ok x.lockFile ∧
      (s.host.files.node x.lockFile).kind = .regular ∧
      (s.host.files.node x.lockFile).locked = true ∧
      (s.host.files.node x.lockFile).bytes = ownerLine x.process) ∧
    (∀ id, (s.host.files.node id).locked = true → ∃ x ∈ s.holders, x.lockFile = id) ∧
    ∀ process channel claim,
      let result := (s.attempt process channel claim).1
      let after := (s.attempt process channel claim).2
      ((∃ x ∈ s.holders, x.channel = channel ∨
          s.host.files.find (lockPath channel) = .ok x.lockFile) →
        ∃ e, result = .error e ∧ e.isUnavailable = true ∧ after.holders = s.holders ∧
          s.host.files.Extends after.host.files) ∧
      (∀ e, result = .error e → e.isUnavailable = true ∧ after.holders = s.holders ∧
        (e.isLockHeld = true → ∃ x ∈ s.holders,
          after.host.files.find (lockPath channel) = .ok x.lockFile)) ∧
      ∀ file h', HostAttempt.runOn (ChannelLock.findFile channel) { s.host with process }
          = (.ok file, h') → (h'.files.node file).kind = .regular →
        (∀ x ∈ s.holders, x.lockFile ≠ file) →
          result = .ok () ∨ claim ≠ .acquire ∧ ∃ e, result = .error e ∧ e.isLockHeld = false := by
  have hguarded := (Site.isGuarded_nil hsound hfree).run events
  refine ⟨?_, ?_, hguarded.taken, fun process channel claim => ⟨?_, ?_, ?_⟩⟩
  · -- Two holders of one channel would find the same lock file beside it.
    refine hguarded.apart.imp_of_mem fun {x y} hx hy hfiles => ⟨fun hchannel => hfiles ?_, hfiles⟩
    have hfound := (hguarded.held x hx).found
    rw [hchannel] at hfound
    exact Except.ok.inj (hfound.symm.trans (hguarded.held y hy).found)
  · intro x hx
    obtain ⟨hfound, hregular, hlocked, howner⟩ := hguarded.held x hx
    exact ⟨hfound, hregular, hlocked, howner⟩
  · rintro ⟨x, hx, rfl | hfind⟩
    · exact hguarded.attempt_of_held hx (hguarded.held x hx).found
    · exact hguarded.attempt_of_held hx hfind
  · exact fun e herror => hguarded.attempt_of_error herror
  · exact fun file h' hfile hregular hnone => hguarded.attempt_of_free hfile hregular hnone

/-- A machine with a regular file where a channel is wanted. -/
def occupiedHost : Host where
  files := ⟨[{ kind := .directory }, { kind := .regular }], [(["jobs"], 1), ([], 0)], []⟩

/-- A listener has found that the channel is no pipe, and then the lock has been taken by another process:
    a third one is refused. -/
theorem one_holder_of_occupied :
    occupiedHost.files.Sound ∧ (∀ id, (occupiedHost.files.node id).locked = false) ∧
      ∃ e, ((Site.run ⟨occupiedHost, []⟩ [.attempt 7 "/jobs" (.bind (.new 1) {}),
          .attempt 8 "/jobs" .acquire]).attempt 9 "/jobs" .acquire).1 = .error e ∧
        e.isUnavailable = true := by
  have hsound : occupiedHost.files.Sound := Files.sound_of_forall (by decide)
  have hfree : ∀ id, (occupiedHost.files.node id).locked = false
    | 0 | 1 | _ + 2 => rfl
  have hheld : "/jobs" ∈ (Site.run ⟨occupiedHost, []⟩ [.attempt 7 "/jobs" (.bind (.new 1) {}),
      .attempt 8 "/jobs" .acquire]).holders.map Holder.channel := by decide
  obtain ⟨x, hx, hchannel⟩ := List.mem_map.1 hheld
  obtain ⟨e, herror, hunavailable, -⟩ :=
    ((one_holder hsound hfree _).2.2.2 9 "/jobs" .acquire).1 ⟨x, hx, .inl hchannel⟩
  exact ⟨hsound, hfree, e, herror, hunavailable⟩

end JobMonitor
