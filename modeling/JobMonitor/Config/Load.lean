import JobMonitor.Config.Basic
import JobMonitor.Config.Variable
import JobMonitor.Files.Tree
import JobMonitor.Text.Lenient
import JobMonitor.Toml.Document
import JobMonitor.Yaml.Node

set_option autoImplicit false

/-! # Loading the configuration

The defaults, then a file if there is one, then the environment: each is laid over what comes
before it. -/

namespace JobMonitor

/-- Why there is no configuration. -/
inductive ConfigError where
  | missingFile (path : Path)
  /-- The file says nothing that can be read. -/
  | unreadable
  /-- The settings do not amount to a configuration. -/
  | misfit
  | noFrameBytes
deriving DecidableEq, Repr

/-- The wording of an error. -/
def ConfigError.message : ConfigError → String
  | .missingFile path => "config file " ++ path ++ " does not exist"
  | .unreadable => "config file cannot be read"
  | .misfit => "failed to parse config file"
  | .noFrameBytes => "max_frame_bytes must be positive"

/-! ## Files -/

/-- The key that a single value of a YAML text makes. -/
def yamlKey? : Yaml.Scalar → Option String
  | .text content => some content
  | .integer value => some (signedDecimal value)
  | .boolean value => some (if value then "true" else "false")
  | .real content => some content
  | _ => none

/-- The setting that a single value of a YAML text makes. -/
def yamlScalar? : Yaml.Scalar → Option Setting
  | .null | .mistagged => some .null
  | .boolean value => some (.boolean value)
  | .integer value => some (.integer value)
  | .real content => (binary64Of? content.toList).map .real
  | .text content => some (.text content)

mutual

/-- The setting that a value of a YAML text makes. -/
def yamlSetting? : Yaml.Node → Option Setting
  | .scalar value => yamlScalar? value
  | .sequence items => (yamlItems? items).map .list
  | .mapping members => (yamlMembers? [] members).map .table

/-- The settings that the items of a sequence make. -/
def yamlItems? : List Yaml.Node → Option (List Setting)
  | [] => some []
  | item :: rest => do return (← yamlSetting? item) :: (← yamlItems? rest)

/-- The settings that the members of a mapping make. -/
def yamlMembers? (table : SettingTable) : List (Yaml.Scalar × Yaml.Node) → Option SettingTable
  | [] => some table
  | (key, value) :: rest => do
    yamlMembers? (table.put (← yamlKey? key) (← yamlSetting? value)) rest

end

/-- The settings of a YAML text, which has to be one mapping. A text with nothing in it has no
    settings. -/
def yamlSettings? (text : List Char) : Option SettingTable := do
  match ← Yaml.documents? text with
  | [] => return []
  | [document] =>
    match ← yamlSetting? document with
    | .table members => return members
    | _ => none
  | _ => none

/-- The readers of configuration files by the ending of the name. -/
def configFormats : List (String × (List Char → Option SettingTable)) :=
  [("toml", Toml.settings?), ("yaml", yamlSettings?), ("yml", yamlSettings?)]

/-- The content of a regular file. -/
def Files.content? (f : Files) (path : Path) : Option Bytes :=
  match f.find path with
  | .ok id => if (f.node id).kind = .regular then some (f.node id).bytes else none
  | .error _ => none

/-- What a path gets whose last name has an ending, so that it is not that ending that is changed. -/
def endingMark : String := ".placeholder"

/-- The text of the configuration file that a path means and the ending of its name. What is not
    a regular file may have one beside it that has the same name with an ending. -/
def configText? (f : Files) (path : Path) : Option (String × Bytes) :=
  match f.content? path with
  | some bytes => some (path.extension?.getD "", bytes)
  | none =>
    let path := if path.extension?.isSome then path ++ endingMark else path
    configFormats.findSome? fun (ending, _) =>
      (f.content? (path.withEnding ending)).map (ending, ·)

/-- The settings of a configuration file. A mark at the start that says how the bytes are ordered
    does not count. -/
def fileSettings? (f : Files) (path : Path) : Option SettingTable := do
  let (ending, bytes) ← configText? f path
  let read ← configFormats.lookup ending
  let text := bytes.lenientChars
  read (if text.head? = some (Char.ofNat 0xFEFF) then text.drop 1 else text)

/-! ## Loading -/

/-- The settings of the file that a path leads to. -/
def loadFile (f : Files) (path : Path) : Except ConfigError SettingTable :=
  match f.find path with
  | .error _ => .error (.missingFile path)
  | .ok _ =>
    match fileSettings? f path with
    | some settings => .ok settings
    | none => .error .unreadable

/-- The configuration of a process that may have been told of a file. -/
def loadConfig (f : Files) (environment : Environment) (path : Option Path) :
    Except ConfigError Config := do
  let file ← match path with
    | some path => loadFile f path
    | none => .ok []
  let settings := (Setting.table Config.defaults).addSource file |>.addSource environment.settings
  match Config.ofSettings? settings.members path.toList with
  | none => .error .misfit
  | some config => if config.maxFrameBytes = 0 then .error .noFrameBytes else .ok config

end JobMonitor
