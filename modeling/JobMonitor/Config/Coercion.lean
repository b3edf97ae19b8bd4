import JobMonitor.Config.Setting
import JobMonitor.Job.EntryReader
import JobMonitor.Number.FloatText
import JobMonitor.Number.Shortest

set_option autoImplicit false

/-! # Taking settings for what they should be

A setting need not have been written as what it is taken for: numbers and truth values are texts
too, and the other way round as far as a text reads like one. -/

namespace JobMonitor

/-- How numbers are spelled when a text is wanted: never with an exponent. -/
def plainNotation : FloatNotation where
  positional := none
  keepsPoint := false
  signsExponent := false
  infinity := "inf"
  nan := "NaN"

/-- The text that a setting is taken for. -/
def Setting.text? : Setting → Option String
  | .text content => some content
  | .boolean value => some (if value then "true" else "false")
  | .integer value => some (signedDecimal value)
  | .real value => some (plainNotation.write value)
  | _ => none

/-- The greatest natural of 64 bits. -/
def greatestUInt64 : Nat := UInt64.size - 1

/-- The natural nearest to a number, from a tie the larger one, as far as there is one. -/
def Binary64.nearestUInt64 (x : Binary64) : UInt64 :=
  if x.isNaN ∨ x.isNegative then 0
  else if x.isInfinite then UInt64.ofNat greatestUInt64
  else UInt64.ofNat (min x.roundHalfUp greatestUInt64)

/-- The natural that a text spells, in digits or as a word for one or zero. -/
def wordNatural? (content : String) : Option UInt64 :=
  let word := String.ofList (smallLetters content.toList)
  if ["true", "on", "yes"].contains word then some 1
  else if ["false", "off", "no"].contains word then some 0
  else
    let digits := match content.toList with
      | '+' :: digits => digits
      | digits => digits
    ((natural? digits).filter (· ≤ greatestUInt64)).map UInt64.ofNat

/-- The natural that a setting is taken for. -/
def Setting.natural? : Setting → Option UInt64
  | .boolean value => some (if value then 1 else 0)
  | .integer value => if value < 0 then none else some (UInt64.ofNat value.toNat)
  | .real value => some value.nearestUInt64
  | .text content => wordNatural? content
  | _ => none

/-- The policy that a setting names, as a text or as the only key of a table. -/
def Setting.policy? : Setting → Option DuplicatePolicy
  | .text name => DuplicatePolicy.known.lookup name
  | .table [(name, _)] => DuplicatePolicy.known.lookup name
  | _ => none

/-- The members of a record under their names, or in their order if the setting is a list. Of a
    list none may be missing. -/
def Setting.fields? (names : List String) : Setting → Option SettingTable
  | .table members => some members
  | .list items => if items.length < names.length then none else some (names.zip items)
  | _ => none

/-- A text that may be null or missing. -/
def SettingTable.optionalText? (table : SettingTable) (key : String) : Option (Option String) :=
  match table.lookup key with
  | none | some .null => some none
  | some value => value.text?.map some

end JobMonitor
