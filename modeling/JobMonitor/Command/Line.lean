import JobMonitor.Command.Usage

set_option autoImplicit false

/-! # Reading a command line

A command line names a command, with the options of the program before it and those of the command
behind it. An option is settled, that is, its values are looked at, when the next option begins or
the command line ends. An argument that cannot be at its place is reported before anything that is
wrong with an option that has not been settled. -/

namespace JobMonitor

/-- The options that have been found, with their values. -/
abbrev FoundOptions := List (String × List OptionValue)

/-- An option that has not been settled. -/
structure PendingOption where
  option : OptionSpec
  values : List String := []
  /-- More values may follow. -/
  isOpen : Bool := true

/-- How far a command line has been read. -/
structure LineProgress where
  found : FoundOptions := []
  pending : Option PendingOption := none
  /-- Two hyphens have been met, behind which nothing is an option. -/
  isPlain : Bool := false

/-- What can be said on one level of a command line. -/
structure LineLevel where
  options : List OptionSpec
  commands : List String := []

/-! ## Options -/

/-- Adds the values of an option to those that have been found. -/
def FoundOptions.add (found : FoundOptions) (o : OptionSpec) (values : List OptionValue) :
    FoundOptions :=
  match found with
  | [] => [(o.name, values)]
  | (name, known) :: rest =>
    if name = o.name then (name, known ++ values) :: rest
    else (name, known) :: FoundOptions.add rest o values

/-- Takes an option with values into account. -/
def LineProgress.record (p : LineProgress) (o : OptionSpec) (values : List String) :
    Except UsageError LineProgress :=
  if (p.found.lookup o.name).isSome ∧ ¬ o.isRepeatable then .error .conflict
  else (values.mapM o.kind.read).map fun values => { p with found := p.found.add o values }

/-- Settles the option that has not been settled, if there is one. -/
def LineProgress.settle (p : LineProgress) : Except UsageError LineProgress :=
  match p.pending with
  | none => .ok p
  | some pending =>
    if pending.values.isEmpty then .error .invalidValue
    else ({ p with pending := none }).record pending.option pending.values

/-- Begins an option. -/
def LineProgress.begin (p : LineProgress) (o : OptionSpec) : Except UsageError LineProgress := do
  let p ← p.settle
  match o.use with
  | .flag => p.record o []
  | .help => .error .help
  | .version => .error .version
  | .value .. | .rest _ => .ok { p with pending := some { option := o } }

/-- Begins an option whose value stands behind an equals sign. -/
def LineProgress.beginWith (p : LineProgress) (o : OptionSpec) (value : String) :
    Except UsageError LineProgress :=
  match o.use with
  | .value .. | .rest _ => do (← p.settle).record o [value]
  | _ => .error .unwantedValue

/-- Adds a value to the option that is open. -/
def LineProgress.addValue (p : LineProgress) (pending : PendingOption) (value : String) :
    LineProgress :=
  { p with pending := some { pending with
      values := pending.values ++ [value], isOpen := pending.option.takesRest } }

/-! ## Arguments -/

/-- What an argument looks like. -/
inductive ArgumentShape where
  /-- Two hyphens alone. -/
  | twoHyphens
  /-- The name of an option, and what stands behind an equals sign. -/
  | name (name : String) (value : Option String)
  /-- The letters of options. -/
  | letters (letters : List Char)
  | word
deriving DecidableEq, Repr

/-- What an argument looks like. A hyphen alone is a word. -/
def argumentShape (argument : String) : ArgumentShape :=
  match argument.toList with
  | ['-', '-'] => .twoHyphens
  | '-' :: '-' :: rest =>
    let name := String.ofList (rest.takeWhile (· ≠ '='))
    match rest.dropWhile (· ≠ '=') with
    | _ :: value => .name name (some (String.ofList value))
    | [] => .name name none
  | '-' :: c :: rest => .letters (c :: rest)
  | _ => .word

/-- The option that waits for a value takes an argument of this shape as one. -/
def OptionSpec.takesAsValue (o : OptionSpec) : ArgumentShape → Bool
  | .word => true
  | .letters letters => o.takesRest || (o.allowsNegative && looksLikeNumber {} letters)
  | .twoHyphens | .name .. => o.takesRest

/-- What is wrong with a word that is neither a value nor a command. -/
def LineLevel.stray (l : LineLevel) (p : LineProgress) (word : String) : UsageError :=
  if l.commands.isEmpty ∨ (p.isPlain ∧ word ∈ l.commands) then .unknownArgument else .unknownCommand

/-- Begins the options of letters. -/
def LineLevel.takeLetters (l : LineLevel) (p : LineProgress) :
    List Char → Except UsageError LineProgress
  | [] => .ok p
  | c :: rest =>
    match l.options.find? (·.letter = some c) with
    | none => .error .unknownArgument
    | some o => do l.takeLetters (← p.begin o) rest

/-- Takes an argument that is no value. -/
def LineLevel.takeArgument (l : LineLevel) (p : LineProgress) (argument : String) :
    ArgumentShape → Except UsageError LineProgress
  | .twoHyphens => .ok { p with isPlain := true }
  | .name name value =>
    match l.options.find? (·.name = name), value with
    | none, _ => .error .unknownArgument
    | some o, none => p.begin o
    | some o, some value => p.beginWith o value
  | .letters letters => l.takeLetters p letters
  | .word => .error (l.stray p argument)

/-- The option that waits for a value. -/
def LineProgress.open? (p : LineProgress) : Option PendingOption :=
  p.pending.filter (·.isOpen)

/-- Reads the arguments of a level. If it ends with a command, gives its name and the arguments
    behind it. -/
def LineLevel.read (l : LineLevel) (p : LineProgress) :
    List String → Except UsageError (LineProgress × Option (String × List String))
  | [] => .ok (p, none)
  | argument :: rest =>
    if p.isPlain then .error (l.stray p argument)
    else
      let shape := argumentShape argument
      match p.open? with
      | some pending =>
        if pending.option.takesAsValue shape then l.read (p.addValue pending argument) rest
        else do l.read (← l.takeArgument p argument shape) rest
      | none =>
        if argument ∈ l.commands then .ok (p, some (argument, rest))
        else do l.read (← l.takeArgument p argument shape) rest

/-! ## Rules -/

/-- The option has been found. -/
def FoundOptions.has (found : FoundOptions) (name : String) : Bool := (found.lookup name).isSome

/-- No two options exclude each other. -/
def LineLevel.checkConflicts (l : LineLevel) (found : FoundOptions) : Except UsageError Unit :=
  if l.options.any fun o => found.has o.name && o.excludes.any found.has then .error .conflict
  else .ok ()

/-- No option is missing. -/
def LineLevel.checkRequired (l : LineLevel) (found : FoundOptions) : Except UsageError Unit :=
  if l.options.any fun o =>
      if found.has o.name then o.needs.any (!found.has ·) else o.isRequired then
    .error .missingOption
  else .ok ()

/-- Settles the last option of a level and checks its rules. -/
def LineLevel.finish (l : LineLevel) (p : LineProgress) : Except UsageError FoundOptions := do
  let p ← p.settle
  l.checkConflicts p.found
  l.checkRequired p.found
  return p.found

/-! ## Programs -/

/-- What can be said on the command line of a program. -/
structure ProgramSpec where
  /-- The options of the program and of each of its commands. -/
  shared : List OptionSpec
  /-- The options of the program alone. -/
  options : List OptionSpec
  /-- The commands with their options. -/
  commands : List (String × List OptionSpec)

/-- The command that shows help. -/
def helpCommand : String := "help"

/-- Shows help about the commands that follow. -/
def ProgramSpec.helpError (s : ProgramSpec) : List String → UsageError
  | [] => .help
  | [topic] => if topic = helpCommand ∨ (s.commands.lookup topic).isSome then .help else .unknownCommand
  | _ => .unknownCommand

/-- A command with its options and those of the program. -/
structure FoundCommand where
  command : String
  options : FoundOptions
  programOptions : FoundOptions

/-- Reads the command line of a program. The rules of a command are checked before those of the
    program. -/
def ProgramSpec.read (s : ProgramSpec) (arguments : List String) :
    Except UsageError FoundCommand := do
  let level : LineLevel :=
    { options := s.shared ++ s.options, commands := helpCommand :: s.commands.map (·.1) }
  match ← level.read {} arguments with
  | (p, none) =>
    let p ← p.settle
    .error (if p.found.isEmpty then .helpForNothing else .missingCommand)
  | (p, some (command, rest)) =>
    match s.commands.lookup command with
    | none => .error (s.helpError rest)
    | some options =>
      let inner : LineLevel := { options := s.shared ++ options }
      let (q, _) ← inner.read {} rest
      let options ← inner.finish q
      let programOptions ← level.finish p
      return ⟨command, options, programOptions⟩

end JobMonitor
