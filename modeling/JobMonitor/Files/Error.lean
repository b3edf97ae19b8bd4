import JobMonitor.Number.Decimal

set_option autoImplicit false

/-! # Errors of the operating system

Why an operation on files fails, and how that is worded. -/

namespace JobMonitor

/-- Why an operation on files fails. -/
inductive OsError where
  | notFound
  | noReader
  | invalidArgument
  | noSpace
  | notPermitted
  | alreadyExists
  | notDirectory
  | isDirectory
  | brokenPipe
  | nameTooLong
  | notExecutable
  /-- A path holds the byte 0. -/
  | zeroByteInPath
  /-- What was opened as a pipe is something else. -/
  | notAPipe
  /-- Another process holds the lock in a file. -/
  | lockHeld (path : String)
  /-- More bytes than can be written at once. -/
  | writeTooLong (length limit : Nat)
deriving DecidableEq, Repr

/-- The wording of an error with a number of its own. -/
def numberedError (text : String) (number : Nat) : String :=
  text ++ " (os error " ++ decimal number ++ ")"

/-- The wording of an error. -/
def OsError.message : OsError → String
  | .notPermitted => numberedError "Operation not permitted" 1
  | .notFound => numberedError "No such file or directory" 2
  | .noReader => numberedError "No such device or address" 6
  | .notExecutable => numberedError "Permission denied" 13
  | .alreadyExists => numberedError "File exists" 17
  | .notDirectory => numberedError "Not a directory" 20
  | .isDirectory => numberedError "Is a directory" 21
  | .invalidArgument => numberedError "Invalid argument" 22
  | .noSpace => numberedError "No space left on device" 28
  | .brokenPipe => numberedError "Broken pipe" 32
  | .nameTooLong => numberedError "File name too long" 36
  | .zeroByteInPath => "file name contained an unexpected NUL byte"
  | .notAPipe => "not a pipe"
  | .lockHeld path => "another monitor holds " ++ path
  | .writeTooLong length limit =>
    "frame of " ++ decimal length ++ " bytes exceeds the " ++ decimal limit ++ " byte atomic write limit"

end JobMonitor
