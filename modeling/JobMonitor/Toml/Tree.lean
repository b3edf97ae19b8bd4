import JobMonitor.Config.Setting

set_option autoImplicit false

/-! # The tree of a TOML text

Tables come into being in three ways, and each forbids other ways to add to them: a table has one
header at most, keys with dots add to tables that such keys have made, and what is written inside
braces or brackets is complete. -/

namespace JobMonitor.Toml

/-- How a table came into being. -/
inductive Origin where
  /-- Between the parts of a header. -/
  | passed
  /-- By a header of its own. -/
  | headed
  /-- Between the parts of a key. -/
  | dotted
deriving DecidableEq, Repr

/-- A part of the tree. -/
inductive Item where
  /-- A value that is complete. -/
  | closed (value : Setting)
  | table (origin : Origin) (members : List (String × Item))
  /-- Tables under one header, at least one. -/
  | tables (elements : List (List (String × Item)))
deriving Inhabited

/-- The members of a table. -/
abbrev Members := List (String × Item)

/-- Puts an item under a key, in place of what is there. -/
def Members.put (key : String) (item : Item) (members : Members) : Members :=
  match members with
  | [] => [(key, item)]
  | (k, i) :: rest =>
    if k = key then (key, item) :: rest else (k, i) :: Members.put key item rest

/-- Changes the table at the end of a path. Of tables under one header it is the last one. The parts
    of a key cannot go through a table that has a header of its own. -/
def alter (isKey : Bool) (change : Origin → Members → Option Members) :
    (path : List String) → Origin → Members → Option Members
  | [], origin, members => change origin members
  | key :: path, _, members =>
    match members.lookup key with
    | none =>
      let origin := if isKey then .dotted else .passed
      (alter isKey change path origin []).map fun inner =>
        members ++ [(key, .table origin inner)]
    | some (.closed _) => none
    | some (.table origin inner) =>
      if isKey ∧ origin = .headed then none
      else (alter isKey change path origin inner).map fun inner =>
        Members.put key (.table origin inner) members
    | some (.tables elements) =>
      (alter isKey change path .headed (elements.getLast?.getD [])).map fun inner =>
        Members.put key (.tables (elements.dropLast ++ [inner])) members

/-- Splits the last part off a path. -/
def splitLast? : List String → Option (List String × String)
  | [] => none
  | [key] => some ([], key)
  | key :: path => (splitLast? path).map fun (front, last) => (key :: front, last)

/-- Sets a key in a table. It cannot be set already. -/
def assign (path : List String) (value : Setting) (members : Members) : Option Members := do
  let (front, key) ← splitLast? path
  let set (origin : Origin) (members : Members) : Option Members :=
    if ¬ front.isEmpty ∧ origin ≠ .dotted then none
    else if (members.lookup key).isSome then none
    else some (members ++ [(key, .closed value)])
  alter true set front .headed members

/-- Opens the table of a header. -/
def openTable (path : List String) (members : Members) : Option Members := do
  let (front, key) ← splitLast? path
  let set (_ : Origin) (members : Members) : Option Members :=
    match members.lookup key with
    | none => some (members ++ [(key, .table .headed [])])
    | some (.table .passed inner) => some (Members.put key (.table .headed inner) members)
    | some _ => none
  alter false set front .headed members

/-- Opens one more table under a header for several. -/
def openElement (path : List String) (members : Members) : Option Members := do
  let (front, key) ← splitLast? path
  let set (_ : Origin) (members : Members) : Option Members :=
    match members.lookup key with
    | none => some (members ++ [(key, .tables [[]])])
    | some (.tables elements) => some (Members.put key (.tables (elements ++ [[]])) members)
    | some _ => none
  alter false set front .headed members

/-- Sets a key in the table that has been opened last. -/
def assignWithin (opened path : List String) (value : Setting) (members : Members) :
    Option Members :=
  alter false (fun _ => assign path value) opened .headed members

mutual

/-- What an item says. -/
def Item.setting : Item → Setting
  | .closed value => value
  | .table _ members => .table (memberSettings members)
  | .tables elements => .list (elementSettings elements)

/-- What the members of a table say. -/
def memberSettings : List (String × Item) → SettingTable
  | [] => []
  | (key, item) :: rest => (key, item.setting) :: memberSettings rest

/-- What the tables under one header say. -/
def elementSettings : List (List (String × Item)) → List Setting
  | [] => []
  | members :: rest => .table (memberSettings members) :: elementSettings rest

end

end JobMonitor.Toml
