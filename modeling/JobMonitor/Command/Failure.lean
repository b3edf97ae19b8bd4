import JobMonitor.Text.Pieces

set_option autoImplicit false

/-! # Failures

A command that fails reports why, and what is behind that. -/

namespace JobMonitor

/-- Why a command fails: its reason and what is behind it, the nearest cause first. -/
abbrev Failure := List String

/-- A text with its lines after the first one moved in. -/
def moveIn (margin text : String) : String := ("\n" ++ margin).intercalate (pieces '\n' text)

/-- The lines of a cause. Causes are numbered if there are several. -/
def causeLines (number : Option Nat) (cause : String) : String :=
  match number with
  | none => "    " ++ moveIn "    " cause
  | some n =>
    let digits := toString n
    String.ofList (List.replicate (5 - digits.length) ' ') ++ digits ++ ": " ++ moveIn "       " cause

/-- The report of a failure. -/
def Failure.report (f : Failure) : String :=
  let lines := match f with
    | [cause] => [causeLines none cause]
    | causes => causes.zipIdx.map fun (cause, n) => causeLines (some n) cause
  "Error: Can't process CLI command\n\nCaused by:\n" ++ "\n".intercalate lines ++ "\n"

end JobMonitor
