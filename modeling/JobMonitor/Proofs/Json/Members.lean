import JobMonitor.Json.Value

set_option autoImplicit false

/-! # Finding members

What is found under a key of an object that was put together member by member is the value that was
put in last under it. -/

namespace JobMonitor

theorem Json.member?_insertMember (key : String) (value : Json) (members : List (String × Json))
    (other : String) :
    Json.member? other (Json.insertMember key value members)
      = if key = other then some value else Json.member? other members := by
  induction members with
  | nil => rfl
  | cons m rest ih =>
    obtain ⟨k, v⟩ := m
    rw [insertMember]
    split
    · rfl
    · split
      · next hk =>
        rw [member?, member?, hk]
        split <;> rfl
      · next hk =>
        rw [member?, member?, ih]
        by_cases hother : k = other
        · rw [if_pos hother, if_pos hother, if_neg fun h => hk (h.trans hother.symm)]
        · rw [if_neg hother, if_neg hother]

/-- The last of the members with a key counts, and then those that were there before. -/
theorem Json.member?_foldl_insertMember (members sorted : List (String × Json)) (key : String) :
    Json.member? key (members.foldl (fun sorted m => Json.insertMember m.1 m.2 sorted) sorted)
      = (members.reverse.lookup key).or (Json.member? key sorted) := by
  induction members generalizing sorted with
  | nil => rfl
  | cons m rest ih =>
    obtain ⟨k, v⟩ := m
    rw [List.foldl_cons, ih, Json.member?_insertMember, List.reverse_cons, List.lookup_append,
      Option.or_assoc]
    congr 1
    by_cases hkey : k = key
    · simp [hkey]
    · have : (key == k) = false := by simpa using Ne.symm hkey
      simp [List.lookup_cons, hkey, this]

end JobMonitor
