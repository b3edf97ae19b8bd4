set_option autoImplicit false

/-! # How programs end -/

namespace JobMonitor

/-- How a program has ended. -/
inductive Ending where
  | exited (code : UInt8)
  | killed (signal : Nat)
  /-- It has stopped or gone on, but not ended. -/
  | unknown
deriving DecidableEq, Repr

/-- What the operating system says about the end of a program. The low seven bits are the signal that
    killed it, 0 if there was none; all of them set mean that it has only been stopped. The next
    byte is the code that it exited with. -/
def Ending.ofStatus (status : Int32) : Ending :=
  let bits := status.toUInt32.toNat
  let low := bits % 128
  if low = 0 then .exited (UInt8.ofNat (bits / 256))
  else if low = 127 then .unknown
  else .killed low

/-- The exit code that stands for the end of a program. -/
def Ending.exitCode : Ending → Int
  | .exited code => code.toNat
  | .killed signal => 128 + signal
  | .unknown => -1

/-- The signal that no program survives. -/
def killSignal : Nat := 9

end JobMonitor
