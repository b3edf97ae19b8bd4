import JobMonitor.Config.Setting
import JobMonitor.Number.FloatText

set_option autoImplicit false

/-! # Settings in the environment

A variable whose name begins with the name of the program says what a setting is. Two underscores in
its name stand for the dot of a path. -/

namespace JobMonitor

/-- The variables of a process. -/
abbrev Environment := List (String × String)

/-- What the name of a variable begins with, in letters of either case. -/
def variableName : String := "JOBLENS"

/-- What stands between the parts of the name of a variable. -/
def variableSeparator : String := "__"

/-- What the name of a variable begins with in small letters. -/
def variableMark : List Char := smallLetters (variableName ++ variableSeparator).toList

/-- Makes a dot of two underscores. -/
def dotted : List Char → List Char
  | '_' :: '_' :: rest => '.' :: dotted rest
  | c :: rest => c :: dotted rest
  | [] => []

/-- The key that the name of a variable stands for. -/
def variableKey? (name : String) : Option String :=
  let letters := smallLetters name.toList
  if variableMark.isPrefixOf letters then
    some (String.ofList (dotted (letters.drop variableMark.length)))
  else none

/-- What the value of a variable stands for: a truth value, an integer, a number or a text. -/
def variableSetting (value : String) : Setting :=
  let letters := value.toList
  if smallLetters letters = "true".toList then .boolean true
  else if smallLetters letters = "false".toList then .boolean false
  else match int64Of? letters, binary64Of? letters with
    | some n, _ => .integer n
    | none, some x => .real x
    | none, none => .text value

/-- The settings in an environment. -/
def Environment.settings (environment : Environment) : SettingTable :=
  environment.foldl (fun table (name, value) =>
    match variableKey? name with
    | some key => table.put key (variableSetting value)
    | none => table) []

end JobMonitor
