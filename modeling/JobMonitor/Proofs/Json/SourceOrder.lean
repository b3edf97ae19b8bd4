import JobMonitor.Proofs.Json.Skipped

set_option autoImplicit false

/-! # Members as they stand in the text

A value keeps the members of an object sorted and each key once. The text may have them in any order and
repeat a key; `Json.sourceMembers` are its members as they stand there, and the value is what they come to
(`Json.ofMembers_sourceMembers`).

Two readers of members that take the same text can be compared step by step (`Json.readMembers_agree`). -/

namespace JobMonitor

/-! ## Two readers side by side -/

section

variable {ε ε' σ τ : Type} {lift : Json.TextError → ε} {lift' : Json.TextError → ε'}

/-- If of two readers the second one gets through every member that the first one gets through, and keeps to it
    what is related, this is so for all members of an object. It has to be so only up to states that are
    `sound`, if an object that ends in such a state has only gone through such states. -/
theorem Json.readMembers_agree {member : σ → Bytes → Except ε (σ × Bytes)}
    {member' : τ → Bytes → Except ε' (τ × Bytes)} (sound : σ → Prop) (related : σ → τ → Prop)
    (hback : ∀ state s next left, member state s = .ok (next, left) → sound next → sound state)
    (hstep : ∀ state state' s next left, member state s = .ok (next, left) → sound next →
      related state state' → ∃ next', member' state' s = .ok (next', left) ∧ related next next')
    {fuel : Nat} {isFirst : Bool} {s left : Bytes} {state last : σ} {state' : τ}
    (h : Json.readMembers lift member fuel isFirst state s = .ok (last, left)) (hsound : sound last)
    (hrelated : related state state') :
    ∃ last', Json.readMembers lift' member' fuel isFirst state' s = .ok (last', left) ∧
      related last last' := by
  have hunsound : ∀ state s next rest, member state s = .ok (next, rest) →
      ¬ sound state → ¬ sound next :=
    fun state s next rest hmember => mt (hback state s next rest hmember)
  induction fuel generalizing isFirst s state state' with
  | zero => cases h
  | succ fuel ih =>
    rw [readMembers] at h
    rw [readMembers]
    split at h
    · cases h
    · next hnext =>
      obtain ⟨behind, hend, heq⟩ := exists_of_map_eq_ok (eq_ok_of_mapError h)
      obtain ⟨rfl, rfl⟩ := Prod.mk.inj heq
      refine ⟨state', ?_, hrelated⟩
      rw [hend]
      rfl
    · split at h
      · cases h
      · next after behind hmember =>
        have hafter : sound after := by
          by_contra hnot
          exact Json.holds_of_readMembers hunsound h hnot hsound
        obtain ⟨after', hmember', hrelated'⟩ := hstep _ _ _ _ _ hmember hafter hrelated
        rw [hmember']
        exact ih h hrelated'

end

/-! ## Members in order of the text -/

/-- A member of an object of values, put behind those that stand in front of it. -/
def Json.readMemberBehind (read : Bytes → Json.Scan Json) (members : List (String × Json)) (s : Bytes) :
    Json.Scan (List (String × Json)) :=
  (Json.readMember read [] s).map fun (member, s) => (members ++ member, s)

/-- The members of the object that a text holds, as they stand there. -/
def Json.sourceMembers (s : Bytes) : List (String × Json) :=
  match Json.skipBlank s with
  | [] => []
  | _ :: s =>
    let members := Json.readMemberBehind (Json.readValue (Json.maxDepth - 1))
    match Json.readObject id members [] s with
    | .error _ => []
    | .ok (members, _) => members

section

variable {read : Bytes → Json.Scan Json} {s left : Bytes} {key : String} {value : Json}
  {members : List (String × Json)} {start behind : Bytes}

theorem Json.readMemberBehind_eq (hkey : Json.readString s = .ok (key, behind))
    (hcolon : Json.expectColon behind = .ok start) (hvalue : read start = .ok (value, left))
    (members : List (String × Json)) :
    Json.readMemberBehind read members s = .ok (members ++ [(key, value)], left) := by
  rw [readMemberBehind, readMember, hkey]
  dsimp only
  rw [hcolon]
  dsimp only
  rw [hvalue]
  rfl

theorem Json.of_readMemberBehind {members' : List (String × Json)}
    (h : Json.readMemberBehind read members s = .ok (members', left)) :
    ∃ key behind start value, Json.readString s = .ok (key, behind) ∧
      Json.expectColon behind = .ok start ∧ read start = .ok (value, left) ∧
      members' = members ++ [(key, value)] := by
  obtain ⟨⟨member, _⟩, hmember, heq⟩ := exists_of_map_eq_ok h
  obtain ⟨rfl, rfl⟩ := Prod.mk.inj heq
  obtain ⟨key, behind, start, value, hkey, hcolon, hvalue, rfl⟩ := Json.of_readMember hmember
  exact ⟨key, behind, start, value, hkey, hcolon, hvalue, rfl⟩

/-- The members are sorted while they are read, and might as well be sorted when all have been read. -/
theorem Json.exists_readObject_behind
    (h : Json.readObject id (Json.readMember read) [] s = .ok (members, left)) :
    ∃ source, Json.readObject id (Json.readMemberBehind read) [] s = .ok (source, left) ∧
      Json.object members = Json.ofMembers source := by
  refine Json.readMembers_agree (fun _ => True)
    (fun sorted source => Json.object sorted = Json.ofMembers source)
    (fun _ _ _ _ _ _ => trivial) ?_ h trivial rfl
  intro sorted source s next left hmember _ hrelated
  obtain ⟨key, behind, start, value, hkey, hcolon, hvalue, rfl⟩ := Json.of_readMember hmember
  refine ⟨_, Json.readMemberBehind_eq hkey hcolon hvalue source, ?_⟩
  rw [ofMembers, List.foldl_append, Json.object.inj hrelated]
  rfl

end

/-- A text that holds an object goes on with its members behind a brace, and ends behind them. -/
theorem Json.of_read_object {s : Bytes} {members : List (String × Json)}
    (h : Json.read s = .ok (.object members)) :
    ∃ b rest left, Json.skipBlank s = b :: rest ∧ Json.lead b = .brace ∧
      Json.readObject id (Json.readMember (Json.readValue (Json.maxDepth - 1))) [] rest
        = .ok (members, left) ∧
      Json.expectEnd left = .ok () := by
  rw [read] at h
  split at h
  · cases h
  · next left hvalue =>
    obtain ⟨_, hend, rfl⟩ := exists_of_map_eq_ok h
    obtain ⟨b, rest, hskip, hbehind⟩ := Json.of_readValue hvalue
    cases hbehind with
    | object hlead hmembers => exact ⟨b, rest, left, hskip, hlead, hmembers, hend⟩

theorem Json.sourceMembers_eq {s rest left : Bytes} {b : UInt8} {source : List (String × Json)}
    (hskip : Json.skipBlank s = b :: rest)
    (h : Json.readObject id (Json.readMemberBehind (Json.readValue (Json.maxDepth - 1))) [] rest
      = .ok (source, left)) : Json.sourceMembers s = source := by
  rw [sourceMembers, hskip]
  dsimp only
  rw [h]

/-- **An object is what its members come to as they stand in the text.** -/
theorem Json.ofMembers_sourceMembers {s : Bytes} {members : List (String × Json)}
    (h : Json.read s = .ok (.object members)) :
    Json.object members = Json.ofMembers (Json.sourceMembers s) := by
  obtain ⟨b, rest, left, hskip, -, hmembers, -⟩ := Json.of_read_object h
  obtain ⟨source, hsource, heq⟩ := Json.exists_readObject_behind hmembers
  rw [heq, Json.sourceMembers_eq hskip hsource]

end JobMonitor
