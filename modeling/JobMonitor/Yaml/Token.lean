set_option autoImplicit false

/-! # Tokens of a YAML text

What a YAML text consists of once its blanks, line breaks and indentation have been understood. -/

namespace JobMonitor.Yaml

/-- A token of a YAML text. -/
inductive Token where
  /-- A line that gives the version of the language. -/
  | versionDirective
  /-- A line that says what a tag handle stands for. A line of an unknown kind declares the empty
      handle. -/
  | tagDirective (handle meaning : String)
  | documentStart
  | documentEnd
  /-- The indentation of a block sequence begins. -/
  | blockSequenceStart
  /-- The indentation of a block mapping begins. -/
  | blockMappingStart
  /-- The innermost indentation ends. -/
  | blockEnd
  | flowSequenceStart
  | flowSequenceEnd
  | flowMappingStart
  | flowMappingEnd
  | blockEntry
  | flowEntry
  /-- What follows is a key. -/
  | key
  /-- What follows is the value of a key. -/
  | value
  | reference (name : String)
  | anchor (name : String)
  | tag (handle suffix : String)
  /-- A text. Only what is not quoted can be anything else than a text. -/
  | scalar (isPlain : Bool) (text : String)
  | streamEnd
deriving DecidableEq, Inhabited, Repr

end JobMonitor.Yaml
