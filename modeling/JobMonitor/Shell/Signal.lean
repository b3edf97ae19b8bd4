import JobMonitor.Number.Decimal

set_option autoImplicit false

/-! # Signals

The signals that a process can be sent, by name and by number, and what they do to a process that
has not been told what to do about them. -/

namespace JobMonitor.Shell

/-- The signals that have a name, and the end of the shell, which is treated like a signal. -/
def namedSignals : List (String × Nat) := [
  ("EXIT", 0), ("HUP", 1), ("INT", 2), ("QUIT", 3), ("ILL", 4), ("TRAP", 5), ("ABRT", 6), ("BUS", 7),
  ("FPE", 8), ("KILL", 9), ("USR1", 10), ("SEGV", 11), ("USR2", 12), ("PIPE", 13), ("ALRM", 14),
  ("TERM", 15), ("CHLD", 17), ("CONT", 18), ("STOP", 19), ("TSTP", 20), ("TTIN", 21),
  ("TTOU", 22), ("URG", 23), ("XCPU", 24), ("XFSZ", 25), ("VTALRM", 26), ("PROF", 27), ("WINCH", 28),
  ("IO", 29), ("PWR", 30), ("SYS", 31), ("RTMIN", 34), ("RTMAX", 64)]

/-- The signals that are named by their distance from the first or the last of a range. -/
def relativeSignals : List (String × Nat) :=
  (List.range 15).map (fun n => ("RTMIN+" ++ decimal (n + 1), 35 + n))
    ++ (List.range 14).map (fun n => ("RTMAX-" ++ decimal (n + 1), 63 - n))

/-- There are fewer signals than this. -/
def signalLimit : Nat := 65

/-- The signal of a number or a name. The name may have letters of either case. -/
def signal? (least : Nat) (name : String) : Option Nat :=
  match natural? name.toList with
  | some n => if n < signalLimit then some n else none
  | none =>
    let name := String.ofList (name.toList.map Char.toUpper)
    ((namedSignals ++ relativeSignals).lookup name).filter (least ≤ ·)

/-- The signal that asks a process to end. -/
def endSignal : Nat := 15

/-- What a signal does to a process. -/
inductive SignalEffect where
  | kills
  | stops
  | nothing
deriving DecidableEq, Repr

/-- What a signal does to a process that has not been told what to do about it. -/
def standardEffect (signal : Nat) : SignalEffect :=
  if [0, 17, 18, 23, 28].contains signal then .nothing
  else if [19, 20, 21, 22].contains signal then .stops
  else .kills

/-- Nothing can be done about these signals. -/
def isUnavoidable (signal : Nat) : Bool := signal = 9 || signal = 19

end JobMonitor.Shell
