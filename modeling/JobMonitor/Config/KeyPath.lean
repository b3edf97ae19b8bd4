import JobMonitor.Config.Setting
import JobMonitor.Number.FloatText

set_option autoImplicit false

/-! # Keys that are paths

A key such as `log.level` names a setting inside a table, and one such as `export[0]` a setting
inside a list. A key that is not written like that is a plain name, whatever is in it. -/

namespace JobMonitor

/-- A character of a name in a path. -/
def isKeyChar (c : Char) : Bool := c.isAlphanum || c = '_' || c = '-'

/-- The index at the start of a text and what is behind its closing bracket. -/
def splitIndex? (text : List Char) : Option (Int × List Char) :=
  let rest := text.dropWhile fun c => c = ' ' || c = '\t'
  let (sign, rest) := match rest with
    | '-' :: rest => (['-'], rest)
    | rest => ([], rest)
  let behind := (rest.dropWhile isDigitChar).dropWhile fun c => c = ' ' || c = '\t'
  match int64Of? (sign ++ rest.takeWhile isDigitChar), behind with
  | some place, ']' :: behind => some (place, behind)
  | _, _ => none

/-- The steps behind the first name of a path. There are fewer of them than characters. -/
def keySteps? : (fuel : Nat) → List Char → Option (List SettingStep)
  | _, [] => some []
  | 0, _ => none
  | fuel + 1, '.' :: rest =>
    let name := rest.takeWhile isKeyChar
    if name.isEmpty then none
    else (keySteps? fuel (rest.dropWhile isKeyChar)).map (.key (String.ofList name) :: ·)
  | fuel + 1, '[' :: rest => do
    let (place, rest) ← splitIndex? rest
    return .index place :: (← keySteps? fuel rest)
  | _, _ => none

/-- The way that a key leads. -/
def keyPath (key : String) : List SettingStep :=
  let name := key.toList.takeWhile isKeyChar
  let steps := if name.isEmpty then none
    else keySteps? key.length (key.toList.dropWhile isKeyChar)
  match steps with
  | some steps => .key (String.ofList name) :: steps
  | none => [.key key]

/-- Lays the settings of a source over others. -/
def Setting.addSource (target : Setting) (source : SettingTable) : Setting :=
  source.foldl (fun target (key, value) => value.setAt (keyPath key) target) target

end JobMonitor
