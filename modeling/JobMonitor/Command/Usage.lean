import JobMonitor.Number.FloatText

set_option autoImplicit false

/-! # Options of a command line

Which options a command takes, what they want as values, and what is wrong with a command line. -/

namespace JobMonitor

/-- What is wrong with a command line, or what it asks for instead of a command. -/
inductive UsageError where
  | help
  | version
  /-- Nothing has been asked for, so help is shown. -/
  | helpForNothing
  | unknownArgument
  | unknownCommand
  | missingCommand
  /-- A value is missing, or empty where it cannot be. -/
  | invalidValue
  /-- A value is not of the kind that it should be. -/
  | misfitValue
  /-- A flag has been given a value. -/
  | unwantedValue
  /-- An option comes twice, or together with one that excludes it. -/
  | conflict
  | missingOption
deriving DecidableEq, Repr

/-- The value of an option. -/
inductive OptionValue where
  | text (content : String)
  | integer (n : Int64)
  | natural (n : UInt64)
deriving DecidableEq, Repr

/-- What the values of an option have to be. -/
inductive ValueKind where
  | text
  /-- The path of a file, which cannot be empty. -/
  | path
  | integer
  | natural
deriving DecidableEq, Repr

/-- A natural of 64 bits, which may have a plus sign. -/
def uint64Of? (text : List Char) : Option UInt64 :=
  let digits := match text with
    | '+' :: digits => digits
    | digits => digits
  ((natural? digits).filter (· < UInt64.size)).map UInt64.ofNat

/-- The value that a text stands for. -/
def ValueKind.read (kind : ValueKind) (content : String) : Except UsageError OptionValue :=
  match kind with
  | .text => .ok (.text content)
  | .path => if content = "" then .error .invalidValue else .ok (.text content)
  | .integer =>
    match int64Of? content.toList with
    | some n => .ok (.integer (Int64.ofInt n))
    | none => .error .misfitValue
  | .natural =>
    match uint64Of? content.toList with
    | some n => .ok (.natural n)
    | none => .error .misfitValue

/-- What an option does. -/
inductive OptionUse where
  /-- It has no value. -/
  | flag
  /-- It has one value. If it may come again the values add up. -/
  | value (kind : ValueKind) (isRepeatable : Bool)
  /-- It takes all arguments behind it. -/
  | rest (kind : ValueKind)
  | help
  | version
deriving DecidableEq, Repr

/-- An option. -/
structure OptionSpec where
  /-- Its name behind two hyphens. -/
  name : String
  /-- Its letter behind one hyphen. -/
  letter : Option Char := none
  use : OptionUse
  /-- Its value may be a negative number. -/
  allowsNegative : Bool := false
  isRequired : Bool := false
  /-- An option without which it cannot be. -/
  needs : Option String := none
  /-- An option with which it cannot be. -/
  excludes : Option String := none
deriving DecidableEq, Repr

/-- The kind of the values of an option. -/
def OptionSpec.kind (o : OptionSpec) : ValueKind :=
  match o.use with
  | .value kind _ | .rest kind => kind
  | _ => .text

/-- The option may come again. -/
def OptionSpec.isRepeatable (o : OptionSpec) : Bool :=
  match o.use with
  | .value _ isRepeatable => isRepeatable
  | .rest _ => true
  | _ => false

/-- The option takes all arguments behind it. -/
def OptionSpec.takesRest (o : OptionSpec) : Bool := o.use matches .rest _

/-! ## Negative numbers -/

/-- What has been met of a number. -/
structure NumberShape where
  isFirst : Bool := true
  hasPoint : Bool := false
  hasExponent : Bool := false

/-- The characters look like a number: digits with at most a point and the mark of an exponent among
    them, neither of which comes first. Something follows the mark. -/
def looksLikeNumber (shape : NumberShape) : List Char → Bool
  | [] => true
  | c :: rest =>
    if isDigitChar c then looksLikeNumber { shape with isFirst := false } rest
    else if shape.isFirst ∨ shape.hasExponent then false
    else if c = 'e' then !rest.isEmpty && looksLikeNumber { shape with hasExponent := true } rest
    else c = '.' && !shape.hasPoint && looksLikeNumber { shape with hasPoint := true } rest

end JobMonitor
