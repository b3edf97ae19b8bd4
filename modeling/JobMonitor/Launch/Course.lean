import JobMonitor.Files.Tree
import JobMonitor.Launch.Ending

set_option autoImplicit false

/-! # The course of a program

What becomes of a program that is started: the process that it runs as, and how it goes on if it is
left alone, that is how long it runs, how it ends and what it prints. -/

namespace JobMonitor

/-- A text that has been printed. -/
structure Printed where
  /-- When it was printed, in milliseconds. -/
  time : Nat
  isError : Bool
  text : String
deriving DecidableEq, Repr

/-- How a program goes on if it is left alone. -/
structure Course where
  /-- How long it runs, in milliseconds, if it ends at all. -/
  duration : Option Nat
  ending : Ending
  printed : List Printed := []
deriving DecidableEq, Repr

/-- The program runs for so many milliseconds at least. -/
def Course.lasts (c : Course) (time : Nat) : Bool := c.duration.all (time ≤ ·)

/-- What the program prints before a time, or in all. -/
def Course.printedBefore (c : Course) (isError : Bool) (time : Option Nat) : String :=
  let printed := c.printed.filter fun p => p.isError = isError ∧ time.all (p.time < ·)
  "".intercalate ((printed.mergeSort fun p q => p.time ≤ q.time).map (·.text))

/-! ## Starting -/

/-- What a program is started with. -/
structure Startup where
  program : String
  arguments : List String
  files : Files
  /-- The variables that processes start with. -/
  bindings : List (String × String)
  /-- The process that starts it. -/
  parent : Nat
  /-- The processes that are alive. -/
  processes : List Nat

/-- A program that has been started. -/
structure Spawned where
  /-- The number of its process, unless its end has been seen already. -/
  process : Option UInt32
  course : Course
deriving DecidableEq, Repr

/-- What a machine does with a program that is to be started. The program is started, or it is said why
    it is not. -/
abbrev Spawner := Startup → Except OsError Spawned

end JobMonitor
