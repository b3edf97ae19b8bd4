set_option autoImplicit false

/-! # Log lines

What the monitor reports while it works: a level, a message and named values. -/

namespace JobMonitor

/-- How much a line matters. -/
inductive LogLevel where
  | trace
  | debug
  | info
  | warn
  | error
deriving DecidableEq, Inhabited, Repr

/-- The name of a level at the start of a line. -/
def LogLevel.display : LogLevel → String
  | .trace => "TRACE"
  | .debug => "DEBUG"
  | .info => "INFO"
  | .warn => "WARN"
  | .error => "ERROR"

/-- A line of the log. -/
structure LogLine where
  level : LogLevel
  message : String
  /-- Named values in the order in which they are shown. -/
  fields : List (String × String) := []
deriving DecidableEq

/-- The text of a line. -/
def LogLine.render (l : LogLine) : String :=
  l.level.display ++ " " ++ l.message ++ String.join (l.fields.map fun (k, v) => " " ++ k ++ "=" ++ v)

end JobMonitor
