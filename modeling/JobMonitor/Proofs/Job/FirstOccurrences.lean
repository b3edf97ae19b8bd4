import Mathlib.Data.List.Nodup
import Mathlib.Data.List.Perm.Basic

set_option autoImplicit false

/-! # First occurrences

The members of a list without their repetitions, in the order in which they occur first. There is only
one such list (`IsFirstOccurrences.unique`), which is what is left when duplicates are erased
(`isFirstOccurrences_eraseDups`). -/

namespace JobMonitor

variable {α β : Type} [DecidableEq α] [DecidableEq β] {firsts all : List α}

/-- The members of a list without their repetitions, in the order in which they occur first. -/
structure IsFirstOccurrences (firsts all : List α) : Prop where
  nodup : firsts.Nodup
  mem_iff : ∀ a, a ∈ firsts ↔ a ∈ all
  inOrder : firsts.Pairwise fun a b => all.idxOf a < all.idxOf b

/-- There is only one such list. -/
theorem IsFirstOccurrences.unique {others : List α} (h : IsFirstOccurrences firsts all)
    (h' : IsFirstOccurrences others all) : firsts = others := by
  have hperm : firsts.Perm others :=
    (List.perm_ext_iff_of_nodup h.nodup h'.nodup).2 fun a => (h.mem_iff a).trans (h'.mem_iff a).symm
  refine hperm.eq_of_pairwise ?_ h.inOrder h'.inOrder
  intro a b _ _ hab hba
  exact absurd hab (Nat.lt_asymm hba)

/-- A list in which nothing is repeated stays as it is. -/
theorem isFirstOccurrences_self (h : all.Nodup) : IsFirstOccurrences all all where
  nodup := h
  mem_iff _ := Iff.rfl
  inOrder := by
    refine List.pairwise_iff_getElem.2 fun i j hi hj hij => ?_
    rwa [h.idxOf_getElem, h.idxOf_getElem]

/-- Leaving members out does not change which of two others occurs first. -/
theorem idxOf_lt_of_filter {p : α → Bool} {a b : α} (ha : p a = true) (hb : p b = true)
    (h : (all.filter p).idxOf a < (all.filter p).idxOf b) : all.idxOf a < all.idxOf b := by
  induction all with
  | nil => exact h
  | cons c rest ih =>
    by_cases hc : p c = true
    · rw [List.filter_cons_of_pos hc] at h
      by_cases hcb : c = b
      · rw [List.idxOf_cons_eq _ hcb] at h
        exact absurd h (Nat.not_lt_zero _)
      · rw [List.idxOf_cons_ne _ hcb] at h ⊢
        by_cases hca : c = a
        · rw [List.idxOf_cons_eq _ hca]
          exact Nat.succ_pos _
        · rw [List.idxOf_cons_ne _ hca] at h ⊢
          exact Nat.succ_lt_succ (ih (Nat.lt_of_succ_lt_succ h))
    · rw [List.filter_cons_of_neg hc] at h
      have hca : c ≠ a := fun heq => hc (heq ▸ ha)
      have hcb : c ≠ b := fun heq => hc (heq ▸ hb)
      rw [List.idxOf_cons_ne _ hca, List.idxOf_cons_ne _ hcb]
      exact Nat.succ_lt_succ (ih h)

theorem isFirstOccurrences_eraseDups (all : List α) : IsFirstOccurrences all.eraseDups all := by
  induction hn : all.length using Nat.strongRecOn generalizing all with
  | ind n ih =>
    cases all with
    | nil => exact ⟨List.nodup_nil, fun _ => Iff.rfl, List.Pairwise.nil⟩
    | cons a rest =>
      -- Behind the first member come the first occurrences of the others.
      have hshorter := List.length_filter_le (fun b => !b == a) rest
      have hrest := ih _ (by rw [← hn, List.length_cons]; omega) (rest.filter fun b => !b == a) rfl
      have hne : ∀ b ∈ (rest.filter fun b => !b == a).eraseDups, b ≠ a := by
        intro b hb
        simpa using (List.mem_filter.1 (List.mem_eraseDups.1 hb)).2
      refine ⟨?_, fun _ => List.mem_eraseDups, ?_⟩
      · rw [List.eraseDups_cons, List.nodup_cons]
        exact ⟨fun ha => hne a ha rfl, hrest.nodup⟩
      · rw [List.eraseDups_cons, List.pairwise_cons]
        refine ⟨fun b hb => ?_, ?_⟩
        · rw [List.idxOf_cons_self, List.idxOf_cons_ne _ (hne b hb).symm]
          exact Nat.succ_pos _
        · refine hrest.inOrder.imp_of_mem fun {b c} hb hc hlt => ?_
          rw [List.idxOf_cons_ne _ (hne b hb).symm, List.idxOf_cons_ne _ (hne c hc).symm]
          exact Nat.succ_lt_succ
            (idxOf_lt_of_filter (by simpa using hne b hb) (by simpa using hne c hc) hlt)

theorem idxOf_map {f : α → β} (hf : Function.Injective f) (a : α) :
    (all.map f).idxOf (f a) = all.idxOf a := by
  induction all with
  | nil => rfl
  | cons b rest ih =>
    rw [List.map_cons]
    by_cases hb : b = a
    · rw [List.idxOf_cons_eq _ hb, List.idxOf_cons_eq _ (congrArg f hb)]
    · rw [List.idxOf_cons_ne _ hb, List.idxOf_cons_ne _ fun h => hb (hf h), ih]

/-- Values that are told apart by a number are so in the same order. -/
theorem IsFirstOccurrences.map (h : IsFirstOccurrences firsts all) {f : α → β}
    (hf : Function.Injective f) : IsFirstOccurrences (firsts.map f) (all.map f) where
  nodup := (List.nodup_map_iff hf).2 h.nodup
  mem_iff b := by simp only [List.mem_map, h.mem_iff]
  inOrder := by
    rw [List.pairwise_map]
    simpa only [idxOf_map hf] using h.inOrder

end JobMonitor
