import JobMonitor.Ingest.Listener
import JobMonitor.Proofs.Files.Locks

set_option autoImplicit false

/-! # Taking the lock of a channel

The lock of a channel is taken in two steps: its file is found or made, and then it is looked at. The
first has nothing to do with locks; the second refuses a file that is locked or not a regular one, and
changes nothing then (`ChannelLock.runOn_acquire`). Whoever listens takes the lock first and then opens
the reading end, which again has nothing to do with locks, and if that fails the lock is released
(`Claim.attempt_cases`). -/

namespace JobMonitor

variable {channel : Path} {h h' : Host}

/-! ## The file of a lock -/

/-- Finds the lock file of a channel, or makes it. -/
def ChannelLock.findFile (channel : Path) : HostAttempt ChannelError FileId := do
  Host.makeParents (.unavailable channel) (lockPath channel)
  Host.findOrMake (.unavailable channel) (lockPath channel)

theorem ChannelLock.sparesLocks_findFile (channel : Path) (h : Host) :
    (ChannelLock.findFile channel).SparesLocks h :=
  (HostAttempt.sparesLocks_makeParents channel _).bind fun _ _ _ =>
    HostAttempt.sparesLocks_findOrMake channel _

/-- No file that is there is touched. -/
theorem ChannelLock.extends_findFile (channel : Path) (h : Host) :
    h.files.Extends (HostAttempt.runOn (ChannelLock.findFile channel) h).2.files := by
  have hparents := Host.extends_makeParents (ChannelError.unavailable channel) (lockPath channel) h
  rw [findFile, HostAttempt.runOn_bind]
  rcases hrun : HostAttempt.runOn
    (Host.makeParents (ChannelError.unavailable channel) (lockPath channel)) h with ⟨result, h₁⟩
  rw [hrun] at hparents
  cases result with
  | error e => exact hparents
  | ok _ => exact hparents.trans (Host.extends_findOrMake _ _ h₁)

theorem ChannelLock.of_findFile {file : FileId} (hsound : h.files.Sound)
    (hok : HostAttempt.runOn (ChannelLock.findFile channel) h = (.ok file, h')) :
    h'.files.find (lockPath channel) = .ok file := by
  obtain ⟨_, h₁, hparents, hfile⟩ := HostAttempt.exists_of_runOn_bind hok
  have hextends := Host.extends_makeParents (ChannelError.unavailable channel) (lockPath channel) h
  rw [hparents] at hextends
  exact (Host.of_findOrMake _ hfile).2 (hextends.sound hsound)

/-! ## The lock -/

/-- The lock file of a channel belongs to a process. -/
def FileNode.lockedBy (n : FileNode) (process : Nat) : FileNode :=
  { n with locked := true, bytes := ownerLine process }

/-- The lock file of a channel belongs to nobody. -/
def FileNode.unlocked (n : FileNode) : FileNode := { n with locked := false }

/-- **The lock is refused exactly if its file cannot be had, is locked or is not a regular file**, and
    then nothing is changed but that the file has been made. -/
theorem ChannelLock.runOn_acquire (channel : Path) (h : Host) :
    HostAttempt.runOn (ChannelLock.acquire channel) h
      = match HostAttempt.runOn (ChannelLock.findFile channel) h with
        | (.error e, h') => (.error e, h')
        | (.ok file, h') =>
          if (h'.files.node file).locked then
            (.error (.unavailable channel (.lockHeld (lockPath channel))), h')
          else if (h'.files.node file).kind ≠ .regular then
            (.error (.unavailable channel .invalidArgument), h')
          else (.ok ⟨lockPath channel, file⟩,
            (h'.withFile file (FileNode.lockedBy · h'.process)).withLine
              { level := .debug, message := "Locked job channel with " ++ lockPath channel }) := by
  rw [acquire, findFile, HostAttempt.runOn_bind, HostAttempt.runOn_bind]
  rcases HostAttempt.runOn
    (Host.makeParents (ChannelError.unavailable channel) (lockPath channel)) h with ⟨_ | _, h₁⟩
  · rfl
  · dsimp only
    rw [HostAttempt.runOn_bind]
    rcases HostAttempt.runOn
      (Host.findOrMake (ChannelError.unavailable channel) (lockPath channel)) h₁ with ⟨_ | file, h₂⟩
    · rfl
    · dsimp only
      rw [HostAttempt.runOn_node_bind]
      cases hlocked : (h₂.files.node file).locked with
      | true => rfl
      | false =>
        by_cases hkind : (h₂.files.node file).kind = .regular
        · simp only [hkind, ne_eq, not_true_eq_false, if_false, Bool.false_eq_true]
          rfl
        · simp only [hkind, ne_eq, not_false_eq_true, if_true, if_false, Bool.false_eq_true]
          rfl

/-! ## The reading end -/

theorem sparesLocks_expectFifo (path : Path) (kind : FileKind) : (expectFifo path kind).SparesLocks h := by
  rw [expectFifo]
  split
  · exact HostAttempt.sparesLocks_pure ()
  · exact HostAttempt.sparesLocks_throw rfl rfl

theorem sparesLocks_ensureFifo (path : Path) (h : Host) : (ensureFifo path).SparesLocks h := by
  refine HostAttempt.SparesLocks.get_bind ?_
  split
  · exact sparesLocks_expectFifo path _
  · refine (HostAttempt.sparesLocks_makeParents path path).bind fun _ h₁ _ =>
      HostAttempt.SparesLocks.get_bind ?_
    split
    · next files hmake =>
      exact (HostAttempt.sparesLocks_modify (Files.grows_of_make hmake).spares).bind
        fun _ _ _ => HostAttempt.sparesLocks_say _ _
    · exact (HostAttempt.sparesLocks_ask path (h₁.files.notLockHeld_kind path)).bind
        fun kind _ _ => sparesLocks_expectFifo path kind
    · next e _ hmake =>
      refine HostAttempt.sparesLocks_throw_unavailable path fun p hp => ?_
      exact h₁.files.notLockHeld_make path .fifo p (hp ▸ hmake)
  · next e _ hkind =>
    refine HostAttempt.sparesLocks_throw_unavailable path fun p hp => ?_
    exact h.files.notLockHeld_kind path p (hp ▸ hkind)

theorem ChannelReader.sparesLocks_openAt (path : Path) (limit : Nat) (h : Host) :
    (ChannelReader.openAt path limit).SparesLocks h := by
  refine (sparesLocks_ensureFifo path h).bind fun _ h₁ _ => ?_
  refine (HostAttempt.sparesLocks_ask path (h₁.files.notLockHeld_find path)).bind fun file _ _ => ?_
  refine HostAttempt.SparesLocks.bind (HostAttempt.sparesLocks_modifyFile file ?_ ?_ ?_)
    fun _ _ _ => HostAttempt.sparesLocks_pure _
  · exact fun _ => rfl
  · exact fun _ => rfl
  · exact fun _ _ => rfl

/-- Closing the reading end loses what waits in a pipe, but nothing of a regular file. -/
theorem ChannelReader.spares_close (r : ChannelReader) (h : Host) :
    h.files.Spares (r.close.run h).2.files := by
  refine .modify h.files r.file _ (fun n => ?_) (fun n => ?_) fun n hkind => ?_
  · rw [FileNode.settle]
    split <;> rfl
  · rw [FileNode.settle]
    split <;> rfl
  · rw [FileNode.settle, if_neg fun hsettle => by cases hkind.symm.trans hsettle.1]

/-! ## Claims to a channel -/

/-- What whoever has a channel to itself has got. -/
inductive Holding where
  | lockOnly (lock : ChannelLock)
  | listening (listener : Listener)

/-- The lock is the same for both. -/
def Holding.channelLock : Holding → ChannelLock
  | .lockOnly lock => lock
  | .listening listener => listener.lock

/-- Gives up the channel. -/
def Holding.drop : Holding → HostAction Unit
  | .lockOnly lock => lock.release
  | .listening listener => listener.close

/-- How somebody wants to have a channel to itself. -/
inductive Claim where
  | acquire
  | bind (registry : Registry) (options : IngestOptions)

/-- Claims a channel. -/
def Claim.attempt (channel : Path) : Claim → HostAttempt ChannelError Holding
  | .acquire => .lockOnly <$> ChannelLock.acquire channel
  | .bind registry options => .listening <$> Listener.bind channel registry options

theorem HostAttempt.runOn_map {ε α β : Type} (f : α → β) (x : HostAttempt ε α) (h : Host) :
    HostAttempt.runOn (f <$> x) h = match HostAttempt.runOn x h with
      | (.ok a, h') => (.ok (f a), h')
      | (.error e, h') => (.error e, h') := by
  rw [map_eq_pure_bind, HostAttempt.runOn_bind]
  rcases HostAttempt.runOn x h with ⟨_ | _, h'⟩ <;> rfl

/-- What is done about the lock when the reading end cannot be opened. -/
theorem Listener.runOn_bind_of_failed {registry : Registry} {options : IngestOptions}
    {lock : ChannelLock} {h₁ h₂ : Host} {e : ChannelError}
    (hlock : HostAttempt.runOn (ChannelLock.acquire channel) h = (.ok lock, h₁))
    (hopen : HostAttempt.runOn (ChannelReader.openAt channel options.maxFrameBytes) h₁
      = (.error e, h₂)) :
    HostAttempt.runOn (Listener.bind channel registry options) h
      = (.error e, h₂.withFile lock.file FileNode.unlocked) := by
  rw [Listener.bind, HostAttempt.runOn_bind, hlock]
  dsimp only
  rw [HostAttempt.runOn_bind, HostAttempt.runOn_orElseDo, hopen]
  rfl

theorem Listener.runOn_bind_of_opened (registry : Registry) {options : IngestOptions}
    {lock : ChannelLock} {h₁ h₂ : Host} {reader : ChannelReader}
    (hlock : HostAttempt.runOn (ChannelLock.acquire channel) h = (.ok lock, h₁))
    (hopen : HostAttempt.runOn (ChannelReader.openAt channel options.maxFrameBytes) h₁
      = (.ok reader, h₂)) :
    HostAttempt.runOn (Listener.bind channel registry options) h
      = (.ok ⟨lock, reader, { options, registry }⟩, h₂.withLine
          { level := .info, message := "Listening for job submissions on " ++ channel }) := by
  rw [Listener.bind, HostAttempt.runOn_bind, hlock]
  dsimp only
  rw [HostAttempt.runOn_bind, HostAttempt.runOn_orElseDo, hopen]
  rfl

/-- If the lock is refused, so is the channel, and nothing more is done. -/
theorem Claim.attempt_of_refused (claim : Claim) {e : ChannelError}
    (hlock : HostAttempt.runOn (ChannelLock.acquire channel) h = (.error e, h')) :
    HostAttempt.runOn (claim.attempt channel) h = (.error e, h') := by
  cases claim with
  | acquire => rw [attempt, HostAttempt.runOn_map, hlock]
  | bind registry options =>
    rw [attempt, HostAttempt.runOn_map, Listener.bind, HostAttempt.runOn_bind, hlock]

/-- **Who has taken the lock keeps it or gives it back.** It is given back only by a listener that
    cannot open its reading end. Nothing else that is done has to do with locks. -/
theorem Claim.attempt_cases (claim : Claim) {lock : ChannelLock}
    (hlock : HostAttempt.runOn (ChannelLock.acquire channel) h = (.ok lock, h')) :
    ∃ h₂, h'.files.Spares h₂.files ∧
      ((∃ holding, holding.channelLock = lock ∧
          HostAttempt.runOn (claim.attempt channel) h = (.ok holding, h₂)) ∨
        ∃ e, claim ≠ .acquire ∧ e.isUnavailable = true ∧ e.isLockHeld = false ∧
          HostAttempt.runOn (claim.attempt channel) h
            = (.error e, h₂.withFile lock.file FileNode.unlocked)) := by
  cases claim with
  | acquire =>
    refine ⟨h', .refl _, .inl ⟨.lockOnly lock, rfl, ?_⟩⟩
    rw [attempt, HostAttempt.runOn_map, hlock]
  | bind registry options =>
    have hspares := ChannelReader.sparesLocks_openAt channel options.maxFrameBytes h'
    rcases hopen : HostAttempt.runOn (ChannelReader.openAt channel options.maxFrameBytes) h'
      with ⟨e | reader, h₂⟩
    · obtain ⟨hunavailable, hfree⟩ := hspares.error e (by rw [hopen])
      have hfiles := hspares.files
      rw [hopen] at hfiles
      refine ⟨h₂, hfiles, .inr ⟨e, by simp, hunavailable, hfree, ?_⟩⟩
      rw [attempt, HostAttempt.runOn_map, Listener.runOn_bind_of_failed hlock hopen]
    · have hfiles := hspares.files
      rw [hopen] at hfiles
      have hrun := HostAttempt.runOn_map Holding.listening
        (Listener.bind channel registry options) h
      rw [Listener.runOn_bind_of_opened registry hlock hopen] at hrun
      refine ⟨_, ?_, .inl ⟨_, ?_, hrun⟩⟩
      · exact hfiles
      · rfl

end JobMonitor
