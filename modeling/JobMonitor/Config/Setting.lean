import JobMonitor.Number.Binary64

set_option autoImplicit false

/-! # Settings

What a source of the configuration says, before anything is known about what it should say. Sources
are laid one over the other: tables key by key, anything else as a whole. -/

namespace JobMonitor

/-- A value that has been set. -/
inductive Setting where
  | null
  | boolean (value : Bool)
  | integer (value : Int)
  | real (value : Binary64)
  | text (text : String)
  | list (items : List Setting)
  | table (members : List (String × Setting))
deriving Inhabited

/-- Settings by key. -/
abbrev SettingTable := List (String × Setting)

/-- Puts a setting under a key, in place of what is there. -/
def SettingTable.put (key : String) (value : Setting) (table : SettingTable) : SettingTable :=
  match table with
  | [] => [(key, value)]
  | (k, v) :: rest =>
    if k = key then (key, value) :: rest else (k, v) :: SettingTable.put key value rest

/-- The setting under a key. What is not set is null. -/
def SettingTable.at (table : SettingTable) (key : String) : Setting := (table.lookup key).getD .null

/-- The keys of a table. Nothing else has any. -/
def Setting.members : Setting → SettingTable
  | .table members => members
  | _ => []

/-- The items of a list. Nothing else has any. -/
def Setting.items : Setting → List Setting
  | .list items => items
  | _ => []

mutual

/-- Lays a setting over another one. -/
def Setting.over (target : Setting) : (incoming : Setting) → Setting
  | .table members => .table (Setting.layMembers target.members members)
  | single => single

/-- Lays settings over those under the same keys. -/
def Setting.layMembers (target : SettingTable) : (incoming : SettingTable) → SettingTable
  | [] => target
  | (key, value) :: rest => Setting.layMembers (target.put key ((target.at key).over value)) rest

end

/-! ## Paths -/

/-- A step of the way to a setting. -/
inductive SettingStep where
  | key (name : String)
  /-- A place in a list, from its end if it is negative. -/
  | index (place : Int)
deriving DecidableEq, Repr

/-- A list with room at a place, and the place counted from its start. -/
def makeRoom (place : Int) (items : List Setting) : List Setting × Nat :=
  if place ≥ 0 then (items ++ List.replicate (place.toNat + 1 - items.length) .null, place.toNat)
  else
    let fromEnd := place.natAbs
    (List.replicate (fromEnd - items.length) .null ++ items, items.length - fromEnd)

/-- Lays a setting over what is at the end of a way. Whatever is in the way is replaced. -/
def Setting.setAt (value : Setting) : (way : List SettingStep) → (target : Setting) → Setting
  | [], target => target.over value
  | .key name :: way, target =>
    .table (target.members.put name (value.setAt way (target.members.at name)))
  | .index place :: way, target =>
    let (items, place) := makeRoom place target.items
    .list (items.modify place (value.setAt way))

end JobMonitor
