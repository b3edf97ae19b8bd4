import JobMonitor.Proofs.Registry.Sweep
import Mathlib.Data.List.Nodup

set_option autoImplicit false

/-! # Which jobs a sweep removes

A probe may answer differently each time, and how often it is asked depends on what it answers. So
what a sweep does is told by the answers that it got, kept in their order (`Probe.kept`): a look at
processes ends at the first that is alive (`IsLook`), and a job that was seen is removed exactly if all
of its processes were dead, and then all of the processes that are stored for it at that time
(`Visit.removal?`). Neither has to be so of the job as it was seen, since other changes may have been
made in between; so a sweep is described over any registry (`Registry.SweptOver`). -/

namespace JobMonitor

variable {σ : Type}

/-! ## What a probe answers -/

/-- A process that was asked about, and whether it was alive. -/
structure Answer where
  pid : Pid
  isAlive : Bool
deriving DecidableEq, Repr

/-- The same probe. It keeps its answers, oldest first. -/
def Probe.kept (isAlive : Probe (StateM σ)) : Probe (StateM (σ × List Answer)) := fun pid =>
  modifyGet fun (world, answers) =>
    let (answer, world) := (isAlive pid).run world
    (answer, world, answers ++ [⟨pid, answer⟩])

/-- All of the processes were asked about in order, and were dead. -/
def AllDead (pids : List Pid) (answers : List Answer) : Prop := answers = pids.map (⟨·, false⟩)

instance (pids : List Pid) (answers : List Answer) : Decidable (AllDead pids answers) :=
  inferInstanceAs (Decidable (_ = _))

/-- The processes were asked about in order, up to the first that was alive. -/
def IsLook (pids : List Pid) (answers : List Answer) : Prop :=
  AllDead pids answers ∨ ∃ dead pid rest, pids = dead ++ pid :: rest ∧
    answers = dead.map (⟨·, false⟩) ++ [⟨pid, true⟩]

theorem allDead_cons {pid : Pid} {pids : List Pid} {answers : List Answer} :
    AllDead (pid :: pids) (⟨pid, false⟩ :: answers) ↔ AllDead pids answers := by
  rw [AllDead, List.map_cons, List.cons_inj_right, AllDead]

theorem not_allDead_of_alive {pids : List Pid} {answers : List Answer} {a : Answer}
    (ha : a ∈ answers) (halive : a.isAlive = true) : ¬ AllDead pids answers := by
  rintro rfl
  obtain ⟨pid, -, rfl⟩ := List.mem_map.1 ha
  exact Bool.false_ne_true halive

theorem isLook_alive (pid : Pid) (rest : List Pid) : IsLook (pid :: rest) [⟨pid, true⟩] :=
  .inr ⟨[], pid, rest, rfl, rfl⟩

theorem IsLook.cons_dead {pids : List Pid} {answers : List Answer} (h : IsLook pids answers)
    (pid : Pid) : IsLook (pid :: pids) (⟨pid, false⟩ :: answers) := by
  rcases h with h | ⟨dead, alive, rest, rfl, rfl⟩
  · exact .inl (allDead_cons.2 h)
  · exact .inr ⟨pid :: dead, alive, rest, rfl, rfl⟩

/-! ## One look -/

section

variable (isAlive : Probe (StateM σ))

theorem run_allGone_of_alive {pid : Pid} (rest : List Pid) {world world' : σ}
    (hasked : (isAlive pid).run world = (true, world')) :
    (allGone isAlive (pid :: rest)).run world = (false, world') := by
  rw [allGone, StateT.run_bind, hasked]
  rfl

theorem run_allGone_of_dead {pid : Pid} (rest : List Pid) {world world' : σ}
    (hasked : (isAlive pid).run world = (false, world')) :
    (allGone isAlive (pid :: rest)).run world = (allGone isAlive rest).run world' := by
  rw [allGone, StateT.run_bind, hasked]
  rfl

theorem Probe.run_kept {pid : Pid} {world world' : σ} {answer : Bool} (answers : List Answer)
    (hasked : (isAlive pid).run world = (answer, world')) :
    (Probe.kept isAlive pid).run (world, answers) = (answer, world', answers ++ [⟨pid, answer⟩]) := by
  show ((isAlive pid).run world |> fun r => (r.1, r.2, answers ++ [⟨pid, r.1⟩])) = _
  rw [hasked]

/-- The processes are found to be gone exactly if all of them were dead. -/
theorem exists_look (pids : List Pid) (world : σ) (answers : List Answer) :
    ∃ look, (allGone (Probe.kept isAlive) pids).run (world, answers)
        = (((allGone isAlive pids).run world).1, ((allGone isAlive pids).run world).2, answers ++ look) ∧
      IsLook pids look ∧ (((allGone isAlive pids).run world).1 = true ↔ AllDead pids look) := by
  induction pids generalizing world answers with
  | nil => exact ⟨[], by rw [List.append_nil]; rfl, .inl rfl, iff_of_true rfl rfl⟩
  | cons pid rest ih =>
    rcases hasked : (isAlive pid).run world with ⟨_ | _, world'⟩
    · obtain ⟨look, hrun, hlook, hdead⟩ := ih world' (answers ++ [⟨pid, false⟩])
      refine ⟨⟨pid, false⟩ :: look, ?_, hlook.cons_dead pid, ?_⟩
      · rw [run_allGone_of_dead _ rest (Probe.run_kept isAlive answers hasked), hrun,
          run_allGone_of_dead isAlive rest hasked, List.append_assoc, List.singleton_append]
      · rw [run_allGone_of_dead isAlive rest hasked, allDead_cons]
        exact hdead
    · refine ⟨[⟨pid, true⟩], ?_, isLook_alive pid rest, ?_⟩
      · rw [run_allGone_of_alive _ rest (Probe.run_kept isAlive answers hasked),
          run_allGone_of_alive isAlive rest hasked]
      · rw [run_allGone_of_alive isAlive rest hasked]
        exact iff_of_false Bool.false_ne_true (not_allDead_of_alive List.mem_cons_self rfl)

end

/-! ## What a registry loses -/

/-- These entries were in the registry and have been removed from it, which has been published in
    their order, and everything else is as before. Every subscriber has the removals to receive behind
    what it had to receive before. -/
structure Registry.Loses (r after : Registry) (removed : List Entry) : Prop where
  stored : ∀ e ∈ removed, e ∈ r.table.entries
  left : after.table.entries = r.table.entries.filter (· ∉ removed)
  published : after.feed = r.feed.publishAll (removed.map (⟨.removed, ·⟩))
  delivered : ∀ name unread, r.feed.HasUnread name unread →
    after.feed.HasUnread name (unread ++ removed.map (⟨.removed, ·⟩))

theorem Registry.loses_nothing (r : Registry) : r.Loses r [] where
  stored := fun _ h => absurd h List.not_mem_nil
  left := (List.filter_eq_self.2 fun _ _ => by simp).symm
  published := rfl
  delivered := fun _ unread h => (List.append_nil unread).symm ▸ h

theorem Registry.Loses.trans {r middle after : Registry} {removed more : List Entry}
    (h : r.Loses middle removed) (h' : middle.Loses after more) : r.Loses after (removed ++ more) where
  stored := by
    intro e he
    rcases List.mem_append.1 he with he | he
    · exact h.stored e he
    · have := h'.stored e he
      rw [h.left] at this
      exact (List.mem_filter.1 this).1
  left := by
    rw [h'.left, h.left, List.filter_filter]
    refine List.filter_congr fun e _ => ?_
    simp [Bool.and_comm]
  published := by
    rw [h'.published, h.published, List.map_append]
    exact List.foldl_append.symm
  delivered := by
    intro name unread hunread
    rw [List.map_append, ← List.append_assoc]
    exact h'.delivered name _ (h.delivered name unread hunread)

/-- The entry of a job is the only one that goes when the job is removed. -/
theorem Table.entries_erase {t : Table} {e : Entry} (he : e ∈ t.entries) :
    (t.erase e.jobId).entries = t.entries.filter (· ∉ [e]) := by
  refine List.filter_congr fun x hx => ?_
  have hsame : x.jobId = e.jobId ↔ x = e := by
    refine ⟨fun hid => ?_, fun h => congrArg Entry.jobId h⟩
    have hfound := Table.get?_eq_some_iff.2 hx
    rw [hid, Table.get?_eq_some_iff.2 he] at hfound
    exact (Option.some.inj hfound).symm
  simp [hsame]

theorem Registry.loses_removeIf (r : Registry) (id : JobId) (condition : Entry → Bool) :
    r.Loses (r.removeIf id condition).registry
      ((r.table.get? id).filter condition).toList := by
  rw [removeIf, commit, Table.removeIf]
  cases hfound : (r.table.get? id).filter condition with
  | none => exact r.loses_nothing
  | some e =>
    have hget := (Option.filter_eq_some_iff.1 hfound).1
    have hstored := Table.mem_of_get? hget
    refine ⟨fun x hx => ?_, ?_, rfl, fun _ _ h => h.publishAll _⟩
    · rw [← Option.some.inj (Option.mem_toList.1 hx)]
      exact hstored
    · rw [← Table.jobId_of_get? hget]
      exact Table.entries_erase hstored

/-- A job whose entry is not among the removed is stored as before. -/
theorem Registry.Loses.get? {r after : Registry} {removed : List Entry} (h : r.Loses after removed)
    {id : JobId} (hid : ∀ e ∈ removed, e.jobId ≠ id) : after.table.get? id = r.table.get? id := by
  rw [Table.get?, h.left, List.find?_filter, Table.get?]
  congr 1
  funext e
  by_cases he : e.jobId = id
  · have : e ∉ removed := fun hmem => hid e hmem he
    simp [he, this]
  · simp [he]

/-! ## One visit -/

/-- What was found out about a job that a sweep had seen. -/
structure Visit where
  seen : Entry
  /-- What was answered about the processes of the job as it was seen. -/
  first : List Answer
  /-- What was answered about the processes of the job as it was when it was to be removed. -/
  second : List Answer

/-- The processes that are looked at again: those of the entry that is stored for the job then, if all
    that were looked at first were dead. -/
def Visit.again (v : Visit) (t : Table) : List Pid :=
  if AllDead v.seen.pids v.first then (t.get? v.seen.jobId).elim [] Entry.pids else []

/-- The entry that is removed: the one that is stored for the job then, if all processes of the job as
    it was seen were dead, and then all processes of this entry. -/
def Visit.removal? (v : Visit) (t : Table) : Option Entry :=
  (t.get? v.seen.jobId).filter fun e => AllDead v.seen.pids v.first ∧ AllDead e.pids v.second

/-- Both looks were at the processes that they had to be at. -/
structure Visit.Fits (v : Visit) (t : Table) : Prop where
  first : IsLook v.seen.pids v.first
  second : IsLook (v.again t) v.second

theorem Visit.fits_congr {v : Visit} {t t' : Table}
    (h : t.get? v.seen.jobId = t'.get? v.seen.jobId) (hfits : v.Fits t) : v.Fits t' where
  first := hfits.first
  second := by
    have := hfits.second
    rwa [again, h] at this

theorem Visit.removal?_congr {v : Visit} {t t' : Table}
    (h : t.get? v.seen.jobId = t'.get? v.seen.jobId) : v.removal? t = v.removal? t' := by
  rw [removal?, h, removal?]

theorem Visit.jobId_of_removal? {v : Visit} {t : Table} {e : Entry} (h : v.removal? t = some e) :
    e.jobId = v.seen.jobId :=
  Table.jobId_of_get? (Option.filter_eq_some_iff.1 h).1

section

variable (isAlive : Probe (StateM σ))

theorem Registry.run_removeFinished_of_none {r : Registry} {id : JobId}
    (hget : r.table.get? id = none) (world : σ) :
    (r.removeFinished isAlive id).run world = (⟨none, r, []⟩, world) := by
  rw [removeFinished, hget]
  rfl

theorem Registry.run_removeFinished_of_some {r : Registry} {id : JobId} {current : Entry}
    (hget : r.table.get? id = some current) {world world' : σ} {gone : Bool}
    (hlook : (allGone isAlive current.pids).run world = (gone, world')) :
    (r.removeFinished isAlive id).run world = (r.removeIf id fun _ => gone, world') := by
  rw [removeFinished, hget]
  dsimp only
  rw [StateT.run_bind, hlook]
  rfl

/-- A sweep visits the first job that was seen, and then sweeps over the others what it has left. -/
theorem Registry.exists_visit (r : Registry) (seen : Entry) (rest : List Entry) (world : σ)
    (answers : List Answer) :
    ∃ (v : Visit) (next : Registry) (world' : σ), v.seen = seen ∧ v.Fits r.table ∧
      r.Loses next (v.removal? r.table).toList ∧
      (r.sweepOver isAlive (seen :: rest)).run world
        = (let swept := (next.sweepOver isAlive rest).run world'
          (((v.removal? r.table).toList ++ swept.1.1, swept.1.2), swept.2)) ∧
      (r.sweepOver (Probe.kept isAlive) (seen :: rest)).run (world, answers)
        = (let swept := (next.sweepOver (Probe.kept isAlive) rest).run
            (world', answers ++ (v.first ++ v.second))
          (((v.removal? r.table).toList ++ swept.1.1, swept.1.2), swept.2)) := by
  obtain ⟨first, hkept, hfirst, hgone⟩ := exists_look isAlive seen.pids world answers
  rcases hlook : (allGone isAlive seen.pids).run world with ⟨_ | _, world'⟩
  · -- Some process is alive, so there is no second look.
    rw [hlook] at hkept hgone
    have hdead : ¬ AllDead seen.pids first := fun h => Bool.false_ne_true (hgone.2 h)
    have hremoval : Visit.removal? ⟨seen, first, []⟩ r.table = none := by
      simp [Visit.removal?, hdead]
    refine ⟨⟨seen, first, []⟩, r, world', rfl, ⟨hfirst, ?_⟩, ?_, ?_, ?_⟩
    · rw [Visit.again, if_neg hdead]
      exact .inl rfl
    · rw [hremoval]
      exact r.loses_nothing
    · rw [r.run_sweepOver_of_alive isAlive rest hlook, hremoval]
      rfl
    · rw [r.run_sweepOver_of_alive _ rest hkept, hremoval, List.append_nil]
      rfl
  · rw [hlook] at hkept hgone
    have hdead : AllDead seen.pids first := hgone.1 rfl
    rw [r.run_sweepOver_of_gone isAlive rest hlook, r.run_sweepOver_of_gone _ rest hkept]
    cases hget : r.table.get? seen.jobId with
    | none =>
      refine ⟨⟨seen, first, []⟩, r, world', rfl, ⟨hfirst, ?_⟩, ?_, ?_, ?_⟩
      · rw [Visit.again, if_pos hdead, hget]
        exact .inl rfl
      · rw [Visit.removal?, hget]
        exact r.loses_nothing
      · rw [Registry.run_removeFinished_of_none isAlive hget, Visit.removal?, hget]
        rfl
      · rw [Registry.run_removeFinished_of_none _ hget, Visit.removal?, hget, List.append_nil]
        rfl
    | some current =>
      obtain ⟨second, hkept', hsecond, hgone'⟩ :=
        exists_look isAlive current.pids world' (answers ++ first)
      rcases hlook' : (allGone isAlive current.pids).run world' with ⟨gone, world''⟩
      rw [hlook'] at hkept' hgone'
      have hremoval : Visit.removal? ⟨seen, first, second⟩ r.table
          = (r.table.get? seen.jobId).filter fun _ => gone := by
        rw [Visit.removal?, hget, Option.filter_some, Option.filter_some]
        simp [hdead, ← hgone']
      refine ⟨⟨seen, first, second⟩, (r.removeIf seen.jobId fun _ => gone).registry, world'', rfl,
        ⟨hfirst, ?_⟩, ?_, ?_, ?_⟩
      · rw [Visit.again, if_pos hdead, hget]
        exact hsecond
      · rw [hremoval]
        exact r.loses_removeIf seen.jobId fun _ => gone
      · rw [Registry.run_removeFinished_of_some isAlive hget hlook', hremoval,
          ← (r.table.removeIf_publishes seen.jobId fun _ => gone).1]
        rfl
      · rw [Registry.run_removeFinished_of_some _ hget hkept', hremoval,
          ← (r.table.removeIf_publishes seen.jobId fun _ => gone).1, List.append_assoc]
        rfl

end

/-! ## All visits -/

/-- What was answered during a visit, in order. -/
def Visit.answers (v : Visit) : List Answer := v.first ++ v.second

/-- The jobs that were seen are visited in their order, and the entries that are removed are those that
    the visits say. -/
theorem Registry.exists_visits (isAlive : Probe (StateM σ)) (r : Registry) {seen : List Entry}
    (hseen : Ordered seen) (world : σ) (answers : List Answer) :
    ∃ visits : List Visit, visits.map Visit.seen = seen ∧ (∀ v ∈ visits, v.Fits r.table) ∧
      (r.sweepOver (Probe.kept isAlive) seen).run (world, answers)
        = (((r.sweepOver isAlive seen).run world).1, ((r.sweepOver isAlive seen).run world).2,
          answers ++ visits.flatMap Visit.answers) ∧
      ((r.sweepOver isAlive seen).run world).1.1 = visits.filterMap (·.removal? r.table) ∧
      r.Loses ((r.sweepOver isAlive seen).run world).1.2
        ((r.sweepOver isAlive seen).run world).1.1 := by
  induction seen generalizing r world answers with
  | nil =>
    refine ⟨[], rfl, fun _ h => absurd h List.not_mem_nil, ?_, rfl, r.loses_nothing⟩
    rw [List.flatMap_nil, List.append_nil]
    rfl
  | cons first rest ih =>
    obtain ⟨hfirst, hrest⟩ := List.pairwise_cons.1 hseen
    obtain ⟨v, next, world', hv, hfits, hloses, hrun, hkept⟩ :=
      r.exists_visit isAlive first rest world answers
    obtain ⟨visits, hvisits, hvisitsFit, hanswers, hremoved, hloses'⟩ :=
      ih next hrest world' (answers ++ v.answers)
    -- The first visit removes no other job, so the others find what they would have found before it.
    have hsame : ∀ v' ∈ visits, next.table.get? v'.seen.jobId = r.table.get? v'.seen.jobId := by
      intro v' hv'
      refine hloses.get? fun e he => ?_
      have hid := Visit.jobId_of_removal? (Option.mem_toList.1 he)
      have hlt := hfirst v'.seen (hvisits ▸ List.mem_map_of_mem hv')
      rw [hid, hv]
      exact Int64.ne_of_lt hlt
    refine ⟨v :: visits, ?_, ?_, ?_, ?_, ?_⟩
    · rw [List.map_cons, hv, hvisits]
    · intro v' hv'
      rcases List.mem_cons.1 hv' with rfl | hv'
      · exact hfits
      · exact Visit.fits_congr (hsame v' hv') (hvisitsFit v' hv')
    · rw [hkept, hrun, ← Visit.answers, hanswers, List.append_assoc, List.flatMap_cons]
    · have hlater : visits.filterMap (·.removal? next.table)
          = visits.filterMap (·.removal? r.table) :=
        List.filterMap_congr fun v' hv' => Visit.removal?_congr (hsame v' hv')
      rw [hrun, List.filterMap_cons, ← hlater, ← hremoved]
      cases v.removal? r.table <;> rfl
    · rw [hrun]
      exact hloses.trans hloses'

/-- Entries that are removed stand in the order of the jobs that were visited. -/
theorem ordered_filterMap_removal? {visits : List Visit} (h : Ordered (visits.map Visit.seen))
    (t : Table) : Ordered (visits.filterMap (·.removal? t)) := by
  refine List.Pairwise.filterMap _ (fun v v' hlt e he e' he' => ?_) (List.pairwise_map.1 h)
  rw [Visit.jobId_of_removal? he, Visit.jobId_of_removal? he']
  exact hlt

/-- The visit of a job is the only one that removes an entry of the job. -/
theorem Registry.Loses.get?_of_visit {r after : Registry} {visits : List Visit}
    (h : r.Loses after (visits.filterMap (·.removal? r.table)))
    (hseen : Ordered (visits.map Visit.seen)) {v : Visit} (hv : v ∈ visits)
    (hnone : v.removal? r.table = none) :
    after.table.get? v.seen.jobId = r.table.get? v.seen.jobId := by
  refine h.get? fun e he hid => ?_
  obtain ⟨v', hv', he⟩ := List.mem_filterMap.1 he
  have hids : (visits.map fun v => v.seen.jobId).Nodup :=
    (List.pairwise_map.1 hseen).map _ fun _ _ hlt => Int64.ne_of_lt hlt
  have hsame : v'.seen.jobId = v.seen.jobId := (Visit.jobId_of_removal? he).symm.trans hid
  obtain rfl := List.inj_on_of_nodup_map hids hv' hv hsame
  rw [hnone] at he
  exact Option.some_ne_none e he.symm

/-! ## Any sweep -/

/-- A sweep over jobs that were seen has got these answers, has given these entries and has left this
    registry. It has visited the jobs in their order and given what their visits have removed. A job with
    a process that was alive when it was to be removed is as it was. -/
structure Registry.SweptOver (r : Registry) (seen : List Entry) (answers : List Answer)
    (removed : List Entry) (after : Registry) : Prop where
  visits : ∃ visits : List Visit, visits.map Visit.seen = seen ∧
    answers = visits.flatMap Visit.answers ∧ removed = visits.filterMap (·.removal? r.table) ∧
    ∀ v ∈ visits, v.Fits r.table ∧
      ((∃ a ∈ v.second, a.isAlive = true) →
        after.table.get? v.seen.jobId = r.table.get? v.seen.jobId)
  ordered : Ordered removed
  loses : r.Loses after removed

/-- Keeping the answers of a probe makes no difference to a sweep. -/
theorem Registry.sweptOver (isAlive : Probe (StateM σ)) (r : Registry) {seen : List Entry}
    (hseen : Ordered seen) (world : σ) :
    ∃ answers, (r.sweepOver (Probe.kept isAlive) seen).run (world, [])
        = (((r.sweepOver isAlive seen).run world).1, ((r.sweepOver isAlive seen).run world).2,
          answers) ∧
      r.SweptOver seen answers ((r.sweepOver isAlive seen).run world).1.1
        ((r.sweepOver isAlive seen).run world).1.2 := by
  obtain ⟨visits, hvisits, hfits, hkept, hremoved, hloses⟩ := r.exists_visits isAlive hseen world []
  have hordered : Ordered (visits.map Visit.seen) := hvisits ▸ hseen
  refine ⟨_, hkept, ⟨visits, hvisits, List.nil_append _, hremoved, fun v hv => ⟨hfits v hv, ?_⟩⟩, ?_,
    hloses⟩
  · rintro ⟨a, ha, halive⟩
    rw [hremoved] at hloses
    refine hloses.get?_of_visit hordered hv ?_
    rw [Visit.removal?, Option.filter_eq_none_iff]
    intro e _ hdead
    exact not_allDead_of_alive ha halive (of_decide_eq_true hdead).2
  · rw [hremoved]
    exact ordered_filterMap_removal? hordered r.table

/-! ## A probe that does not change its answers -/

section

variable {isAlive : Probe (StateM σ)} {alive : Pid → Bool}

theorem IsLook.allDead_iff {pids : List Pid} {answers : List Answer} (h : IsLook pids answers)
    (hfixed : ∀ a ∈ answers, a.isAlive = alive a.pid) :
    AllDead pids answers ↔ pids.any alive = false := by
  rcases h with hdead | ⟨dead, pid, rest, rfl, rfl⟩
  · refine iff_of_true hdead (List.any_eq_false.2 fun pid hpid => ?_)
    have hanswer := hfixed ⟨pid, false⟩ (hdead ▸ List.mem_map_of_mem hpid)
    rw [← hanswer]
    exact Bool.false_ne_true
  · have hlast : (⟨pid, true⟩ : Answer) ∈ dead.map (⟨·, false⟩) ++ [⟨pid, true⟩] :=
      List.mem_append_right _ List.mem_cons_self
    refine iff_of_false (not_allDead_of_alive hlast rfl) fun hnone => ?_
    have hpid := List.any_eq_false.1 hnone pid (List.mem_append_right _ List.mem_cons_self)
    exact hpid (hfixed _ hlast).symm

/-- A visit of a job that is still as it was seen removes the job if it has no process that is
    alive. -/
theorem Visit.removal?_of_fixed {v : Visit} {t : Table} (hfits : v.Fits t)
    (hget : t.get? v.seen.jobId = some v.seen) (hfixed : ∀ a ∈ v.answers, a.isAlive = alive a.pid) :
    v.removal? t = Option.guard (fun e : Entry => !e.pids.any alive) v.seen := by
  have hfirst := hfits.first.allDead_iff fun a ha => hfixed a (List.mem_append_left _ ha)
  rw [removal?, hget, Option.filter_some, Option.guard]
  cases hany : v.seen.pids.any alive with
  | true =>
    have : ¬ AllDead v.seen.pids v.first := fun h => Bool.false_ne_true (hfirst.1 h ▸ hany)
    simp [this]
  | false =>
    have hdead : AllDead v.seen.pids v.first := hfirst.2 hany
    have hsecond := hfits.second
    rw [again, if_pos hdead, hget] at hsecond
    have hagain : AllDead v.seen.pids v.second :=
      (hsecond.allDead_iff fun a ha => hfixed a (List.mem_append_right _ ha)).2 hany
    simp [hdead, hagain]

/-- A probe that does not change its answers is right about each process each time. -/
theorem Registry.answers_of_fixed (hfixed : ∀ pid world, ((isAlive pid).run world).1 = alive pid)
    (r : Registry) (seen : List Entry) (world : σ) :
    ∀ a ∈ ((r.sweepOver (Probe.kept isAlive) seen).run (world, [])).2.2, a.isAlive = alive a.pid := by
  refine Registry.sweepOver_keeps (P := fun state => ∀ a ∈ state.2, a.isAlive = alive a.pid)
    (Probe.kept isAlive) ?_ r seen fun a ha => absurd ha List.not_mem_nil
  intro pid state hright a ha
  rcases List.mem_append.1 ha with ha | ha
  · exact hright a ha
  · rw [List.mem_singleton.1 ha]
    exact hfixed pid state.1

theorem Registry.removed_of_fixed (hfixed : ∀ pid world, ((isAlive pid).run world).1 = alive pid)
    (r : Registry) (world : σ) :
    ((r.sweep isAlive).run world).1.1 = r.table.entries.filter fun e => !e.pids.any alive := by
  obtain ⟨answers, hkept, ⟨visits, hvisits, hanswers, hremoved, hfits⟩, -, -⟩ :=
    r.sweptOver isAlive r.table.ordered world
  have hright := r.answers_of_fixed hfixed r.table.entries world
  rw [hkept, hanswers] at hright
  have hguard : ∀ v ∈ visits, v.removal? r.table
      = Option.guard (fun e : Entry => !e.pids.any alive) v.seen := by
    intro v hv
    have hstored : v.seen ∈ r.table.entries := hvisits ▸ List.mem_map_of_mem hv
    exact Visit.removal?_of_fixed (hfits v hv).1 (Table.get?_eq_some_iff.2 hstored) fun a ha =>
      hright a (List.mem_flatMap_of_mem hv ha)
  rw [sweep, hremoved, List.filterMap_congr hguard, ← hvisits, ← List.filterMap_eq_filter,
    List.filterMap_map]
  rfl

end

/-! ## What a sweep does -/

theorem Registry.loses_sweep (isAlive : Probe (StateM σ)) (r : Registry) (world : σ) :
    r.Loses ((r.sweep isAlive).run world).1.2 ((r.sweep isAlive).run world).1.1 := by
  obtain ⟨-, -, -, -, hloses⟩ := r.sweptOver isAlive r.table.ordered world
  exact hloses

theorem Registry.Loses.eq_of_nil {r after : Registry} (h : r.Loses after []) : after = r := by
  obtain ⟨⟨entries, _⟩, feed⟩ := r
  obtain ⟨⟨entries', _⟩, feed'⟩ := after
  obtain rfl : entries' = entries := h.left.trans (List.filter_eq_self.2 fun _ _ => by simp)
  obtain rfl : feed' = feed := h.published
  rfl

/-- **A sweep removes the jobs that are found to be finished twice**, whatever the probe answers each
    time: it visits the jobs in order, and removes, gives and publishes in that order those whose
    processes were all dead when the job was looked at and again when it was to be removed. This is so
    of jobs that were seen a while ago as well, with the registry as it is now: what is looked at again
    is what is stored now, and a job with a process that is alive then stays. If the probe does not
    change its answers, the jobs that have a process that is alive are left, and another sweep finds
    nothing to do. -/
theorem sweep_removes_finished (isAlive : Probe (StateM σ)) (r : Registry) (world : σ) :
    let swept := (r.sweep isAlive).run world
    (∃ answers,
      (r.sweep (Probe.kept isAlive)).run (world, []) = (swept.1, swept.2, answers) ∧
        r.SweptOver r.table.entries answers swept.1.1 swept.1.2) ∧
    (∀ snapshot : Table,
      let late := (r.sweepOver isAlive snapshot.entries).run world
      ∃ answers, (r.sweepOver (Probe.kept isAlive) snapshot.entries).run (world, [])
          = (late.1, late.2, answers) ∧
        r.SweptOver snapshot.entries answers late.1.1 late.1.2) ∧
    ∀ alive : Pid → Bool, (∀ pid world, ((isAlive pid).run world).1 = alive pid) →
      swept.1.2.table.entries = r.table.entries.filter (·.pids.any alive) ∧
        ∀ world', ((swept.1.2.sweep isAlive).run world').1 = ([], swept.1.2) := by
  intro swept
  refine ⟨r.sweptOver isAlive r.table.ordered world,
    fun snapshot => r.sweptOver isAlive snapshot.ordered world, fun alive hfixed => ?_⟩
  have hleft : swept.1.2.table.entries = r.table.entries.filter (·.pids.any alive) := by
    rw [(r.loses_sweep isAlive world).left]
    refine List.filter_congr fun e he => ?_
    have hremoved : e ∈ swept.1.1 ↔ ¬ e.pids.any alive = true := by
      rw [r.removed_of_fixed hfixed world, List.mem_filter, Bool.not_eq_true']
      exact (and_iff_right he).trans Bool.eq_false_iff
    rw [Bool.eq_iff_iff, decide_eq_true_iff, hremoved, not_not]
  refine ⟨hleft, fun world' => ?_⟩
  -- Every job that is left has a process that is alive.
  have hnone : ((swept.1.2.sweep isAlive).run world').1.1 = [] := by
    rw [swept.1.2.removed_of_fixed hfixed world', hleft, List.filter_filter]
    exact List.filter_eq_nil_iff.2 fun e _ => by simp
  have hloses := swept.1.2.loses_sweep isAlive world'
  rw [hnone] at hloses
  exact Prod.ext hnone hloses.eq_of_nil

/-- Of three jobs one has a process that is alive, one is alive, and one is finished. -/
theorem sweep_removes_finished_one :
    let job (id : JobId) (pids : List Pid) : Entry := { (default : Entry) with jobId := id, pids }
    let r := ((Registry.new 4).performAll
      [.upsert (job 1 [10, 11]), .upsert (job 2 [20]), .upsert (job 3 [30, 31])]).1
    let isAlive : Probe (StateM Unit) := fun pid => pure (pid = 11 || pid = 20)
    (∀ pid world, ((isAlive pid).run world).1 = (pid = 11 || pid = 20)) ∧
      let left := ((r.sweep isAlive).run ()).1.2
      left.table.entries = [job 1 [10, 11], job 2 [20]] ∧
        ((left.sweep isAlive).run ()).1 = ([], left) := by
  intro job r isAlive
  obtain ⟨hleft, hagain⟩ := (sweep_removes_finished isAlive r ()).2.2
    (fun pid => pid = 11 || pid = 20) fun _ _ => rfl
  exact ⟨fun _ _ => rfl, hleft.trans (by decide +kernel), hagain ()⟩

end JobMonitor
