import Mathlib.Data.String.Basic
import JobMonitor.Proofs.Json.Values

set_option autoImplicit false

/-! # Objects in order

An object keeps its members in ascending order of their keys, and each key once. Values that are put
together member by member are of this kind, so all values that are read are (`Json.inOrder_of_read`),
and a value is read back as it was written exactly if it is (`Json.arranged_eq_iff`). -/

namespace JobMonitor

/-- Each of the keys stands behind all smaller ones, and no key stands there twice. -/
def Json.Ascending (members : List (String × Json)) : Prop :=
  (members.map Prod.fst).Pairwise (· < ·)

/-- All objects in the value have their members in order. -/
inductive Json.InOrder : Json → Prop where
  | null : InOrder .null
  | bool (b : Bool) : InOrder (.bool b)
  | number (n : JsonNumber) : InOrder (.number n)
  | string (text : String) : InOrder (.string text)
  | array {items : List Json} (h : ∀ v ∈ items, InOrder v) : InOrder (.array items)
  | object {members : List (String × Json)} (hkeys : Json.Ascending members)
      (h : ∀ m ∈ members, InOrder m.2) : InOrder (.object members)

/-! ## Putting members in -/

variable {key : String} {value : Json} {members sorted : List (String × Json)}

theorem Json.ascending_cons {m : String × Json} :
    Json.Ascending (m :: members) ↔ (∀ n ∈ members, m.1 < n.1) ∧ Json.Ascending members := by
  rw [Ascending, List.map_cons, List.pairwise_cons]
  exact and_congr_left' List.forall_mem_map

theorem Json.eq_or_mem_of_mem_insertMember {m : String × Json}
    (h : m ∈ Json.insertMember key value members) : m = (key, value) ∨ m ∈ members := by
  induction members with
  | nil => exact .inl (List.mem_singleton.1 h)
  | cons first rest ih =>
    rw [insertMember] at h
    split at h
    · exact List.mem_cons.1 h
    · split at h
      · exact (List.mem_cons.1 h).imp_right (List.mem_cons_of_mem _)
      · rcases List.mem_cons.1 h with rfl | hrest
        · exact .inr List.mem_cons_self
        · exact (ih hrest).imp_right (List.mem_cons_of_mem _)

theorem Json.Ascending.insertMember (h : Json.Ascending members) :
    Json.Ascending (Json.insertMember key value members) := by
  induction members with
  | nil => exact List.pairwise_singleton _ _
  | cons first rest ih =>
    obtain ⟨hfirst, hrest⟩ := Json.ascending_cons.1 h
    rw [Json.insertMember]
    split
    · next hlt =>
      refine Json.ascending_cons.2 ⟨fun m hm => ?_, h⟩
      rcases List.mem_cons.1 hm with rfl | hm
      · exact hlt
      · exact String.lt_trans hlt (hfirst m hm)
    · split
      · next hkey => exact Json.ascending_cons.2 ⟨fun m hm => hkey ▸ hfirst m hm, hrest⟩
      · next hge hne =>
        refine Json.ascending_cons.2 ⟨fun m hm => ?_, ih hrest⟩
        rcases Json.eq_or_mem_of_mem_insertMember hm with rfl | hm
        · exact (lt_or_gt_of_ne hne).resolve_left hge
        · exact hfirst m hm

/-- A member whose key is greater than all others comes last. -/
theorem Json.insertMember_of_lt (h : ∀ m ∈ members, m.1 < key) :
    Json.insertMember key value members = members ++ [(key, value)] := by
  induction members with
  | nil => rfl
  | cons first rest ih =>
    have hfirst := h first List.mem_cons_self
    rw [insertMember, if_neg (String.lt_asymm hfirst), if_neg (String.ne_of_lt hfirst).symm,
      ih fun m hm => h m (List.mem_cons_of_mem _ hm), List.cons_append]

/-- Members in order stay as they are when they are put in one after another. -/
theorem Json.foldl_insertMember_of_ascending (h : Json.Ascending (sorted ++ members)) :
    members.foldl (fun sorted m => Json.insertMember m.1 m.2 sorted) sorted = sorted ++ members := by
  induction members generalizing sorted with
  | nil => rw [List.foldl_nil, List.append_nil]
  | cons m rest ih =>
    have hlast : ∀ n ∈ sorted, n.1 < m.1 := by
      rw [Ascending, List.map_append, List.pairwise_append] at h
      exact fun n hn => h.2.2 n.1 (List.mem_map_of_mem hn) m.1 List.mem_cons_self
    have hstep : sorted ++ m :: rest = (sorted ++ [m]) ++ rest := by
      rw [List.append_assoc, List.singleton_append]
    rw [hstep] at h
    rw [List.foldl_cons, Json.insertMember_of_lt hlast, ih h, hstep]

/-- Members that are put in one after another are in order. -/
theorem Json.inOrder_ofMembers (h : ∀ m ∈ members, m.2.InOrder) :
    (Json.ofMembers members).InOrder := by
  have hfold : ∀ sorted, Json.Ascending sorted → (∀ m ∈ sorted, m.2.InOrder) →
      (Json.object (members.foldl (fun sorted m => Json.insertMember m.1 m.2 sorted) sorted)).InOrder := by
    induction members with
    | nil => exact fun sorted hkeys hvalues => .object hkeys hvalues
    | cons m rest ih =>
      intro sorted hkeys hvalues
      refine ih (fun n hn => h n (List.mem_cons_of_mem _ hn)) _ hkeys.insertMember fun n hn => ?_
      rcases Json.eq_or_mem_of_mem_insertMember hn with rfl | hn
      · exact h m List.mem_cons_self
      · exact hvalues n hn
  exact hfold [] List.Pairwise.nil fun _ hm => absurd hm List.not_mem_nil

/-! ## Values as they are read back -/

mutual

theorem Json.inOrder_arranged : (v : Json) → v.arranged.InOrder
  | .null => .null
  | .bool b => .bool b
  | .number n => .number n
  | .string text => .string text
  | .array items => .array (Json.inOrder_arrangedItems items)
  | .object members => Json.inOrder_ofMembers (Json.inOrder_arrangedMembers members)

theorem Json.inOrder_arrangedItems : (items : List Json) → ∀ v ∈ Json.arrangedItems items, v.InOrder
  | [] => fun _ hv => absurd hv List.not_mem_nil
  | v :: rest => List.forall_mem_cons.2 ⟨Json.inOrder_arranged v, Json.inOrder_arrangedItems rest⟩

theorem Json.inOrder_arrangedMembers :
    (members : List (String × Json)) → ∀ m ∈ Json.arrangedMembers members, m.2.InOrder
  | [] => fun _ hm => absurd hm List.not_mem_nil
  | (_, v) :: rest =>
    List.forall_mem_cons.2 ⟨Json.inOrder_arranged v, Json.inOrder_arrangedMembers rest⟩

end

theorem Json.InOrder.arranged_eq {v : Json} (h : v.InOrder) : v.arranged = v := by
  induction h with
  | null | bool | number | string => rfl
  | @array items _ ih =>
    rw [arranged, Json.arrangedItems_eq_map, List.map_congr_left ih, List.map_id']
  | @object members hkeys _ ih =>
    have hsame : ∀ m ∈ members, (m.1, m.2.arranged) = m := fun m hm => by rw [ih m hm]
    have hfold : members.foldl (fun sorted m => Json.insertMember m.1 m.2 sorted) [] = members :=
      Json.foldl_insertMember_of_ascending hkeys
    rw [arranged, Json.arrangedMembers_eq_map, List.map_congr_left hsame, List.map_id', ofMembers,
      hfold]

/-- **A value is read back as it was written if all its objects are in order**, and only then. -/
theorem Json.arranged_eq_iff {v : Json} : v.arranged = v ↔ v.InOrder :=
  ⟨fun h => h ▸ Json.inOrder_arranged v, Json.InOrder.arranged_eq⟩

instance : DecidablePred Json.InOrder := fun v => decidable_of_iff (v.arranged = v) Json.arranged_eq_iff

/-! ## Values that have been read -/

theorem exists_of_map_eq_ok {ε α β : Type} {result : Except ε α} {f : α → β} {b : β}
    (h : result.map f = .ok b) : ∃ a, result = .ok a ∧ f a = b := by
  cases result with
  | error e => cases h
  | ok a => exact ⟨a, rfl, Except.ok.inj h⟩

theorem eq_ok_of_mapError {ε ε' α : Type} {result : Except ε α} {f : ε → ε'} {a : α}
    (h : result.mapError f = .ok a) : result = .ok a := by
  cases result with
  | error e => cases h
  | ok b => exact congrArg Except.ok (Except.ok.inj h)

section Sequences

variable {ε α σ : Type} {lift : Json.TextError → ε} {fuel : Nat} {isFirst : Bool} {s rest : Bytes}

/-- What holds of whatever the reader of an item gives holds of all items of a list. -/
theorem Json.forall_of_readItems {read : Bytes → Except ε (α × Bytes)} {holds : α → Prop}
    (hread : ∀ s item rest, read s = .ok (item, rest) → holds item) {items : List α}
    (h : Json.readItems lift read fuel isFirst s = .ok (items, rest)) :
    ∀ item ∈ items, holds item := by
  induction fuel generalizing isFirst s items rest with
  | zero => cases h
  | succ fuel ih =>
    rw [readItems] at h
    split at h
    · cases h
    · obtain ⟨behind, -, heq⟩ := exists_of_map_eq_ok (eq_ok_of_mapError h)
      obtain ⟨rfl, -⟩ := Prod.mk.inj heq
      exact fun _ hitem => absurd hitem List.not_mem_nil
    · split at h
      · cases h
      · next first behind hfirst =>
        obtain ⟨⟨more, after⟩, hmore, heq⟩ := exists_of_map_eq_ok h
        obtain ⟨rfl, -⟩ := Prod.mk.inj heq
        exact List.forall_mem_cons.2 ⟨hread _ _ _ hfirst, ih hmore⟩

/-- What the reader of a member keeps of the state is kept over all members of an object. -/
theorem Json.holds_of_readMembers {member : σ → Bytes → Except ε (σ × Bytes)} {holds : σ → Prop}
    (hmember : ∀ state s state' rest, member state s = .ok (state', rest) →
      holds state → holds state') {state state' : σ}
    (h : Json.readMembers lift member fuel isFirst state s = .ok (state', rest))
    (hstate : holds state) : holds state' := by
  induction fuel generalizing isFirst s state with
  | zero => cases h
  | succ fuel ih =>
    rw [readMembers] at h
    split at h
    · cases h
    · obtain ⟨behind, -, heq⟩ := exists_of_map_eq_ok (eq_ok_of_mapError h)
      obtain ⟨rfl, -⟩ := Prod.mk.inj heq
      exact hstate
    · split at h
      · cases h
      · next hfirst => exact ih h (hmember _ _ _ _ hfirst hstate)

end Sequences

/-- One more member is put in its place. -/
theorem Json.inOrder_of_readMember {read : Bytes → Json.Scan Json}
    (hread : ∀ s v rest, read s = .ok (v, rest) → v.InOrder) {s rest : Bytes}
    {members' : List (String × Json)} (h : Json.readMember read members s = .ok (members', rest))
    (hmembers : (Json.object members).InOrder) : (Json.object members').InOrder := by
  rw [readMember] at h
  split at h
  · cases h
  · split at h
    · cases h
    · split at h
      · cases h
      · next hvalue =>
        obtain ⟨rfl, -⟩ := Prod.mk.inj (Except.ok.inj h)
        cases hmembers with
        | object hkeys hvalues =>
          refine .object hkeys.insertMember fun m hm => ?_
          rcases Json.eq_or_mem_of_mem_insertMember hm with rfl | hm
          · exact hread _ _ _ hvalue
          · exact hvalues m hm

theorem Json.inOrder_of_readValue {depth : Nat} {s rest : Bytes} {v : Json}
    (h : Json.readValue depth s = .ok (v, rest)) : v.InOrder := by
  induction depth using Nat.strongRecOn generalizing s rest v with
  | ind depth ih =>
    rw [readValue] at h
    split at h
    · cases h
    · split at h
      · obtain ⟨_, -, ⟨⟩⟩ := exists_of_map_eq_ok h
        exact .null
      · obtain ⟨_, -, ⟨⟩⟩ := exists_of_map_eq_ok h
        exact .bool true
      · obtain ⟨_, -, ⟨⟩⟩ := exists_of_map_eq_ok h
        exact .bool false
      · obtain ⟨⟨n, _⟩, -, ⟨⟩⟩ := exists_of_map_eq_ok h
        exact .number n
      · obtain ⟨⟨n, _⟩, -, ⟨⟩⟩ := exists_of_map_eq_ok h
        exact .number n
      · obtain ⟨⟨text, _⟩, -, ⟨⟩⟩ := exists_of_map_eq_ok h
        exact .string text
      · cases depth with
        | zero => cases h
        | succ depth =>
          obtain ⟨⟨items, _⟩, hitems, ⟨⟩⟩ := exists_of_map_eq_ok h
          exact .array (Json.forall_of_readItems (fun _ _ _ => ih depth (Nat.lt_succ_self depth)) hitems)
      · cases depth with
        | zero => cases h
        | succ depth =>
          obtain ⟨⟨members, _⟩, hmembers, ⟨⟩⟩ := exists_of_map_eq_ok h
          have hkept : ∀ sorted s sorted' rest,
              Json.readMember (Json.readValue depth) sorted s = .ok (sorted', rest) →
              (Json.object sorted).InOrder → (Json.object sorted').InOrder := fun _ _ _ _ =>
            Json.inOrder_of_readMember fun _ _ _ => ih depth (Nat.lt_succ_self depth)
          have hnone : (Json.object []).InOrder :=
            .object List.Pairwise.nil fun _ hm => absurd hm List.not_mem_nil
          exact Json.holds_of_readMembers hkept hmembers hnone
      · cases h

/-- **Every value that is read has its members in order**, however they stood in the text. -/
theorem Json.inOrder_of_read {s : Bytes} {v : Json} (h : Json.read s = .ok v) : v.InOrder := by
  rw [read] at h
  split at h
  · cases h
  · next hvalue =>
    obtain ⟨_, -, rfl⟩ := exists_of_map_eq_ok h
    exact Json.inOrder_of_readValue hvalue

end JobMonitor
