import JobMonitor.Number.Binary64

set_option autoImplicit false

/-! # JSON values

Numbers are integers between the least signed and the greatest unsigned 64-bit integer, or
binary64 numbers. An object keeps its members in ascending order of their keys, each key once;
putting a member under a key that is there replaces it. -/

namespace JobMonitor

/-- The integer has 64 bits, with a sign or without one. -/
abbrev IsJsonInteger (n : Int) : Prop :=
  -9_223_372_036_854_775_808 ≤ n ∧ n < 18_446_744_073_709_551_616

/-- An integer that a JSON number can hold exactly. -/
abbrev JsonInteger := { n : Int // IsJsonInteger n }

/-- A JSON number. -/
inductive JsonNumber where
  | integer (n : JsonInteger)
  | float (x : Binary64)
deriving DecidableEq

/-- A JSON value. -/
inductive Json where
  | null
  | bool (b : Bool)
  | number (n : JsonNumber)
  | string (text : String)
  | array (items : List Json)
  | object (members : List (String × Json))
deriving Inhabited

/-! ## Integers -/

/-- The JSON number of a signed 64-bit integer. -/
def Json.ofInt64 (n : Int64) : Json :=
  .number (.integer ⟨n.toInt, by have := n.le_toInt; have := n.toInt_lt; omega⟩)

/-! ## Objects -/

/-- Puts a member into a list in ascending order of keys, in place of one with the same key. -/
def Json.insertMember (key : String) (value : Json) :
    List (String × Json) → List (String × Json)
  | [] => [(key, value)]
  | (k, v) :: rest =>
    if key < k then (key, value) :: (k, v) :: rest
    else if key = k then (key, value) :: rest
    else (k, v) :: Json.insertMember key value rest

/-- The members read one after the other, the last of a repeated key winning. -/
def Json.ofMembers (members : List (String × Json)) : Json :=
  .object (members.foldl (fun sorted m => Json.insertMember m.1 m.2 sorted) [])

/-- The value under a key. -/
def Json.member? (key : String) : List (String × Json) → Option Json
  | [] => none
  | (k, v) :: rest => if k = key then some v else Json.member? key rest

/-! ## Equality -/

mutual

/-- Equality of values is decided member by member. -/
def Json.decEq : (a b : Json) → Decidable (a = b)
  | .null, b => by
      cases b with
      | null => exact isTrue rfl
      | _ => exact isFalse (by simp)
  | .bool x, b => by
      cases b with
      | bool y => exact decidable_of_iff (x = y) (by simp)
      | _ => exact isFalse (by simp)
  | .number x, b => by
      cases b with
      | number y => exact decidable_of_iff (x = y) (by simp)
      | _ => exact isFalse (by simp)
  | .string x, b => by
      cases b with
      | string y => exact decidable_of_iff (x = y) (by simp)
      | _ => exact isFalse (by simp)
  | .array x, b => by
      cases b with
      | array y =>
          have := Json.decEqItems x y
          exact decidable_of_iff (x = y) (by simp)
      | _ => exact isFalse (by simp)
  | .object x, b => by
      cases b with
      | object y =>
          have := Json.decEqMembers x y
          exact decidable_of_iff (x = y) (by simp)
      | _ => exact isFalse (by simp)

/-- Equality of lists of items. -/
def Json.decEqItems : (a b : List Json) → Decidable (a = b)
  | [], [] => isTrue rfl
  | [], _ :: _ => isFalse (by simp)
  | _ :: _, [] => isFalse (by simp)
  | x :: xs, y :: ys =>
      have := Json.decEq x y
      have := Json.decEqItems xs ys
      decidable_of_iff (x = y ∧ xs = ys) (by simp)

/-- Equality of lists of members. -/
def Json.decEqMembers : (a b : List (String × Json)) → Decidable (a = b)
  | [], [] => isTrue rfl
  | [], _ :: _ => isFalse (by simp)
  | _ :: _, [] => isFalse (by simp)
  | (j, x) :: xs, (k, y) :: ys =>
      have := Json.decEq x y
      have := Json.decEqMembers xs ys
      decidable_of_iff (j = k ∧ x = y ∧ xs = ys) (by simp [and_assoc])

end

instance : DecidableEq Json := Json.decEq

end JobMonitor
