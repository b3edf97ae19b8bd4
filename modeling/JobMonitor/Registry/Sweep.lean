import JobMonitor.Registry.Basic

set_option autoImplicit false

/-! # Sweeping out finished jobs

A job is finished when all of its processes are gone. A sweep looks at the jobs that are
registered when it starts, in order, and removes those that are finished. Between the look at a
job and its removal the job may have been replaced, so its processes are looked at again when it
is removed. A probe may answer differently each time it is asked. -/

namespace JobMonitor

/-- Tells whether a process is alive. -/
abbrev Probe (m : Type → Type) := Pid → m Bool

/-- All processes are gone. Asks about one after another until one is alive. -/
def allGone {m : Type → Type} [Monad m] (isAlive : Probe m) : List Pid → m Bool
  | [] => pure true
  | pid :: rest => do
    if ← isAlive pid then pure false else allGone isAlive rest

/-- Removes a job whose processes are gone now. -/
def Registry.removeFinished {m : Type → Type} [Monad m] (r : Registry) (isAlive : Probe m)
    (id : JobId) : m (Committed (Option Entry)) := do
  match r.table.get? id with
  | none => pure ⟨none, r, []⟩
  | some current =>
    let gone ← allGone isAlive current.pids
    pure (r.removeIf id fun _ => gone)

/-- Sweeps over entries that were registered a moment ago. Gives those that were removed and the
    registry after it. -/
def Registry.sweepOver {m : Type → Type} [Monad m] (isAlive : Probe m) (r : Registry) :
    List Entry → m (List Entry × Registry)
  | [] => pure ([], r)
  | seen :: rest => do
    if ← allGone isAlive seen.pids then
      let removal ← r.removeFinished isAlive seen.jobId
      let (removed, after) ← sweepOver isAlive removal.registry rest
      pure (removal.result.toList ++ removed, after)
    else sweepOver isAlive r rest

/-- One sweep over the registry. -/
def Registry.sweep {m : Type → Type} [Monad m] (isAlive : Probe m) (r : Registry) :
    m (List Entry × Registry) :=
  r.sweepOver isAlive r.table.entries

/-- The lines that report the removal of finished jobs. -/
def sweepLog (removed : List Entry) : List LogLine :=
  removed.flatMap fun e =>
    [Change.logLine ⟨.removed, e⟩,
      { level := .info, message := "Job finished, all processes exited"
        fields := [e.jobId.logField, e.pidsField] }]

end JobMonitor
