import JobMonitor.Shell.Lines

set_option autoImplicit false

/-! # Programs

What the programs of a machine do. Each gives its exit status. A program that runs another one does
so in its own place, or waits for it. -/

namespace JobMonitor.Shell

/-! ## Time -/

/-- A number of seconds in milliseconds. A letter may name another unit. -/
def milliseconds? (text : String) : Option Nat :=
  let chars := text.toList
  let (number, unit) := match chars.getLast?.bind fun c =>
      [('s', 1), ('m', 60), ('h', 3600), ('d', 86400)].lookup c with
    | some unit => (chars.dropLast, unit)
    | none => (chars, 1)
  let whole := number.takeWhile isDigitChar
  match number.drop whole.length with
  | [] => (natural? whole).map (· * 1000 * unit)
  | '.' :: fraction =>
    if fraction.all isDigitChar ∧ ¬ (whole.isEmpty ∧ fraction.isEmpty) then
      let thousandths := decimalValue ((fraction ++ ['0', '0', '0']).take 3)
      some ((decimalValue whole * 1000 + thousandths) * unit)
    else none
  | _ => none

/-- The texts that stand for a time without end. -/
def isEndless (text : String) : Bool :=
  ["inf", "infinity"].contains (String.ofList (text.toList.map Char.toLower))

/-- What `sleep` does. -/
def sleepFor (arguments : List String) : Act Nat := do
  if arguments.isEmpty then
    emit 2 "sleep: missing operand\n"
    return 1
  let times := arguments.filter (!isEndless ·)
  match times.mapM milliseconds? with
  | none =>
    emit 2 "sleep: invalid time interval\n"
    return 1
  | some durations =>
    if times.length < arguments.length then throw .neverEnds
    pass (durations.foldl (· + ·) 0)
    return 0

/-! ## Files -/

/-- Adds up the statuses of an action that is done for each argument: it fails if one of them does. -/
def forEachFile (arguments : List String) (failure : Nat) (action : Path → Act Bool) : Act Nat := do
  let mut status := 0
  for path in pathsAmong arguments do
    if ¬ (← action path) then status := failure
  return status

/-- Prints a file. -/
def printFile (path : Path) : Act Bool := do
  if path = "-" then
    emit 1 (← takeAll 0)
    return true
  else if path = nullDevice then return true
  else
    match (← get).files.textAt path with
    | .ok text =>
      if (← get).files.isDirectory path then
        emit 2 ("cat: " ++ path ++ ": Is a directory\n")
        return false
      else
        emit 1 text
        return true
    | .error _ =>
      emit 2 ("cat: " ++ path ++ ": No such file or directory\n")
      return false

/-- What `cat` does. -/
def printFiles (arguments : List String) : Act Nat :=
  forEachFile (if (pathsAmong arguments).isEmpty then ["-"] else arguments) 1 printFile

/-- Prints the name of a file that is there, or the names in a directory. -/
def looksUp (path : Path) : Act Bool := do
  let files := (← get).files
  if answerFile files "-e" path then
    match files.locate path with
    | .ok place =>
      let names := ((files.namesIn place).filter fun name => ¬ name.startsWith ".").mergeSort
        fun a b => !decide (b < a)
      if answerFile files "-d" path then names.forM say else say path
    | .error _ => say path
    return true
  else
    emit 2 ("ls: cannot access '" ++ path ++ "': No such file or directory\n")
    return false

/-- Changes the files, if that can be done. -/
def changeFiles (change : Files → Except OsError Files) : Act Bool := do
  let s ← get
  match change s.files with
  | .ok files =>
    set { s with files }
    return true
  | .error _ => return false

/-- Makes a directory. Those that it lies in may be made too. -/
def makeDirectory (withParents : Bool) (path : Path) : Act Bool :=
  changeFiles fun f =>
    if withParents then
      match f.makeDirectories path.ancestors with
      | (.ok (), f) => .ok f
      | (.error e, _) => .error e
    else f.make path .directory

/-- Takes away a file. -/
def removeFile (isForced isDeep : Bool) (path : Path) : Act Bool := do
  let files := (← get).files
  if (files.find path).toOption.isNone then return isForced
  else if files.isDirectory path ∧ ¬ isDeep then return false
  else changeFiles fun f => .ok (f.remove path)

/-! ## Numbers -/

/-- Prints numbers in a row. -/
def printRow (arguments : List String) : Act Nat := do
  let row (first step last : Int) : Act Nat := do
    if step = 0 then return 1
    let count := if (step > 0 ∧ first > last) ∨ (step < 0 ∧ first < last) then 0
      else ((last - first).tdiv step).toNat + 1
    (List.range (min count 100000)).forM fun n => say (signedDecimal (first + step * n))
    return 0
  match arguments.mapM (wholeNumber? ·) with
  | some [last] => row 1 1 last
  | some [first, last] => row first 1 last
  | some [first, step, last] => row first step last
  | _ => return 1

/-- What `expr` finds out about three words, if it knows the operator between them. -/
def exprValue (left operator right : String) : Option String :=
  let isTrue (text : String) : Bool := text ≠ "" && wholeNumber? text ≠ some 0
  let compared (onNumbers : Int → Int → Bool) (onTexts : String → String → Bool) : Option String :=
    match wholeNumber? left, wholeNumber? right with
    | some a, some b => some (decimal (truth (onNumbers a b)).toNat)
    | _, _ => some (decimal (truth (onTexts left right)).toNat)
  match operator with
  | "=" => compared (· = ·) (· = ·)
  | "!=" => compared (· ≠ ·) (· ≠ ·)
  | "<" => compared (· < ·) (· < ·)
  | ">" => compared (· > ·) (fun a b => b < a)
  | "<=" => compared (· ≤ ·) (fun a b => !decide (b < a))
  | ">=" => compared (· ≥ ·) (fun a b => !decide (a < b))
  | "|" => some (if isTrue left then left else if isTrue right then right else "0")
  | "&" => some (if isTrue left ∧ isTrue right then left else "0")
  | _ => do
    let o ← if ["+", "-", "*", "/", "%"].contains operator then operators.lookup operator else none
    return signedDecimal (← o.apply (← wholeNumber? left) (← wholeNumber? right))

/-- The level of an operator of `expr`. The lower it is the more tightly the operator binds. -/
def exprLevel (operator : String) : Option Nat :=
  if ["*", "/", "%"].contains operator then some 1
  else if ["+", "-"].contains operator then some 2
  else if ["=", "!=", "<", ">", "<=", ">="].contains operator then some 3
  else if operator = "&" then some 4
  else if operator = "|" then some 5
  else none

mutual

/-- An operand of `expr` and what is behind it. -/
def exprOperand : (fuel : Nat) → List String → Option (String × List String)
  | 0, _ | _, [] => none
  | fuel + 1, word :: rest => do
    if word = "(" then
      let (left, rest) ← exprOperand fuel rest
      match ← exprClimb left 5 fuel rest with
      | (value, ")" :: rest) => some (value, rest)
      | _ => none
    else if word = "length" then
      let (value, rest) ← exprOperand fuel rest
      some (decimal value.length, rest)
    else some (word, rest)

/-- Goes on with operators up to a level behind their left side. -/
def exprClimb (left : String) (level : Nat) : (fuel : Nat) → List String → Option (String × List String)
  | 0, _ => none
  | _, [] => some (left, [])
  | fuel + 1, operator :: rest => do
    match (exprLevel operator).filter (· ≤ level) with
    | none => some (left, operator :: rest)
    | some tighter =>
      let (right, rest) ← exprOperand fuel rest
      let (right, rest) ← exprClimb right (tighter - 1) fuel rest
      exprClimb (← exprValue left operator right) level fuel rest

end

/-- What `expr` makes of words. -/
def exprWords (words : List String) : Option String := do
  let fuel := 4 * words.length + 4
  let (left, rest) ← exprOperand fuel words
  match ← exprClimb left 5 fuel rest with
  | (value, []) => some value
  | _ => none

/-- What `expr` does. A value that is empty or 0 counts as a failure. -/
def printExpr (arguments : List String) : Act Nat := do
  match exprWords arguments with
  | none => return 2
  | some value =>
    say value
    return if value = "" ∨ wholeNumber? value = some 0 then 1 else 0

/-! ## Programs that run others -/

/-- The name and the value that a text assigns. -/
def assignmentOf? (text : String) : Option (String × String) :=
  match splitAssignment text with
  | (name, some value) => if name = "" then none else some (name, value)
  | _ => none

/-- Runs a program with other variables. -/
def Interpreter.runWith (i : Interpreter) : (fuel : Nat) → List String → Act Nat
  | 0, _ => return 125
  | _, [] => do
    (← theShell).environment.forM fun (name, v) => say (name ++ "=" ++ v.value.getD "")
    return 0
  | fuel + 1, text :: rest => do
    if text = "-i" ∨ text = "-" then
      -- programs are still looked for where they were
      modifyShell fun s =>
        let path := s.bindings.filter (·.1 = "PATH")
        { s with bindings := path.map fun (name, v) => (name, { v with isExported := false }) }
      i.runWith fuel rest
    else if text = "-u" then
      modifyShell fun s => { s with bindings := s.bindings.filter (·.1 ≠ rest.headD "") }
      i.runWith fuel rest.tail
    else if text = "--" then i.runWith fuel rest
    else if text.startsWith "-" then return 125
    else
      match assignmentOf? text with
      | some (name, value) =>
        modifyShell (·.modifyVariable name fun _ => { value := some value, isExported := true })
        i.runWith fuel rest
      | none => i.execute (text :: rest)

/-- How a program is stopped that runs too long. -/
structure Patience where
  signal : Nat := endSignal
  /-- The status is that of the program in any case. -/
  keepsStatus : Bool := false

/-- Reads options of `timeout`. -/
def readPatience (p : Patience) : (fuel : Nat) → List String → Option (Patience × List String)
  | 0, _ => none
  | fuel + 1, "-s" :: name :: rest => do
    let name := if name.startsWith "SIG" then (name.drop 3).toString else name
    readPatience { p with signal := ← signal? 1 name } fuel rest
  | fuel + 1, "-k" :: _ :: rest => readPatience p fuel rest
  | fuel + 1, "--preserve-status" :: rest => readPatience { p with keepsStatus := true } fuel rest
  | fuel + 1, "--foreground" :: rest => readPatience p fuel rest
  | _, text :: rest =>
    if text = "--" then some (p, rest)
    else if ¬ text.startsWith "-" then some (p, text :: rest)
    else
      match text.toList with
      | '-' :: 's' :: name => (signal? 1 (String.ofList name)).map fun signal => ({ p with signal }, rest)
      | '-' :: d :: _ =>
        match signal? 1 (text.drop 1).toString with
        | some signal => if isDigitChar d then none else some ({ p with signal }, rest)
        | none => none
      | _ => none
  | _, [] => none

/-- Runs a program for some time at most. -/
def Interpreter.runFor (i : Interpreter) (arguments : List String) : Act Nat := do
  match readPatience {} (arguments.length + 1) arguments with
  | some (p, limit :: command@(_ :: _)) =>
    match if isEndless limit then some 0 else milliseconds? limit with
    | none => return 125
    | some limit =>
      let begin := (← get).now
      let ending ← i.subshell id do throw (.exits (← i.execute command))
      let isLate := limit ≠ 0 && (ending.isNone || begin + limit ≤ (← get).now)
      if isLate then
        modify ({ · with now := begin + limit })
        if p.signal = 9 then throw (.dies 9)
        else return if p.keepsStatus then 128 + p.signal else 124
      else
        match ending with
        | some (.killed signal) => return 128 + signal
        | _ => awaited ending
  | _ => return 125

/-! ## The shell as a program -/

/-- The variables that a shell does not take over. -/
def ownVariables : List String := ["IFS", "OPTIND", "PS1", "PS2", "PS4"]

/-- What the variables of a shell are at its start. -/
def Memory.initialVariables (s : Memory) (directory : Path) : List (String × Variable) :=
  let given := s.environment.filter fun (name, _) => !ownVariables.contains name
  let own (name value : String) : String × Variable := (name, { value := some value })
  let path := if given.any (·.1 = "PATH") then [] else [own "PATH" standardSearchPath]
  path ++ [own "IFS" " \t\n", own "OPTIND" "1", own "PS1" "# ", own "PS2" "> ", own "PS4" "+ ",
    ("PWD", { value := some directory, isExported := given.any (·.1 = "PWD") })]
    ++ given.filter (·.1 ≠ "PWD")

/-- Reads the options of a shell. Gives whether the script is an argument, and the other arguments. -/
def shellOptions : (fuel : Nat) → (isCommand : Bool) → List String → Act (Bool × List String)
  | 0, isCommand, arguments => return (isCommand, arguments)
  | fuel + 1, isCommand, arguments => do
    match arguments with
    | [] => return (isCommand, [])
    | text :: rest =>
      match text.toList with
      | ['-', '-'] | ['-'] => return (isCommand, rest)
      | '-' :: letters =>
        let left ← setLetters true (letters.filter (· ≠ 'c')) rest
        shellOptions fuel (isCommand || letters.contains 'c') left
      | '+' :: letters => shellOptions fuel isCommand (← setLetters false letters rest)
      | _ => return (isCommand, arguments)

/-- What the shell does as a program. -/
def Interpreter.runShell (i : Interpreter) (name : String) (arguments : List String) : Act Nat := do
  let directory ← workingDirectory
  let shell ← theShell
  let process ← if shell.isCopy then newProcess else pure shell.process
  modifyShell fun s =>
    { name, arguments := [], process, parent := s.parent
      bindings := s.initialVariables directory, streams := s.streams
      traps := s.traps.filter (·.2 = "") }
  i.upToEnd do
    let (isCommand, arguments) ← shellOptions (arguments.length + 1) false arguments
    match isCommand, arguments with
    | true, [] => fault "-c requires an argument"
    | true, script :: arguments =>
      modifyShell ({ · with name := arguments.headD name, arguments := arguments.tail })
      i.runText false script
    | false, [] => do i.runText false (← takeAll 0)
    | false, path :: arguments =>
      if (← theShell).has 's' then
        modifyShell ({ · with arguments := path :: arguments })
        i.runText false (← takeAll 0)
      else
        let files := (← get).files
        match if path = nullDevice then some "" else (files.textAt path).toOption with
        | some script =>
          modifyShell ({ · with name := path, arguments })
          i.runText false script
        | none => fault ("cannot open " ++ path ++ ": No such file")
  return 0

/-! ## All programs -/

/-- What a program does. -/
def Interpreter.runProgram (i : Interpreter) (name invoked : String) (arguments : List String) :
    Act Nat := do
  match name with
  | "sh" | "dash" | "bash" => i.runShell invoked arguments
  | "true" => return 0
  | "false" => return 1
  | "sleep" => sleepFor arguments
  | "echo" =>
    match arguments with
    | "-e" :: words => print (echoText words true)
    | "-E" :: words => print (echoText words false)
    | words => print (echoText words false)
  | "cat" => printFiles arguments
  | "ls" => forEachFile (if (pathsAmong arguments).isEmpty then ["."] else arguments) 2 looksUp
  | "env" => i.runWith (arguments.length + 1) arguments
  | "timeout" => i.runFor arguments
  | "nohup" => if arguments.isEmpty then return 125 else i.execute arguments
  | "nice" =>
    match arguments with
    | [] => return 0
    | "-n" :: _ :: rest => i.execute rest
    | rest => i.execute rest
  | "yes" =>
    emit 1 (String.ofList (List.replicate 1000 ['y', '\n']).flatten)
    throw .neverEnds
  | "expr" => printExpr arguments
  | "seq" => printRow arguments
  | "head" => cutText (fun n lines => lines.take n) (fun n text => text.take n) arguments
  | "tail" =>
    cutText (fun n lines => lines.drop (lines.length - n)) (fun n text => text.drop (text.length - n))
      arguments
  | "wc" => countText arguments
  | "grep" => findText arguments
  | "sort" => sortText arguments
  | "tee" => copyText arguments
  | "basename" => do print ((Path.fileName? (arguments.headD "")).getD (arguments.headD "") ++ "\n")
  | "dirname" => do
    let parent := (Path.parent? (arguments.headD "")).getD "/"
    print ((if parent = "" then "." else parent) ++ "\n")
  | "which" => tellPaths arguments
  | "date" | "id" | "uname" | "hostname" | "whoami" | "nproc" | "df" | "sync" => return 0
  | "touch" => forEachFile arguments 1 fun path => changeFiles fun f => (f.findOrMake path).map Prod.snd
  | "mkdir" => forEachFile arguments 1 (makeDirectory (hasOption "p" arguments))
  | "rm" => forEachFile arguments 1 (removeFile (hasOption "f" arguments) (hasOption "rR" arguments))
  | "rmdir" => forEachFile arguments 1 (removeFile false true)
  | _ =>
    match plainBuiltins.lookup name with
    | some builtin => builtin arguments
    | none => return 127

/-- The name of the program that a command is, or the status and the words for why it is none. -/
def findCommand (name : String) : Act (Except (Nat × String) String) := do
  let files := (← get).files
  if '/' ∈ name.toList then
    match programAt? files.home name, files.kind name with
    | some program, _ => return .ok program
    | none, .ok _ => return .error (126, "Permission denied")
    | none, .error .notFound => return .error (127, "not found")
    | none, .error .notDirectory => return .error (127, "not found")
    | none, .error _ => return .error (127, "not found")
  else
    match searchProgram? (((← theShell).assigned? "PATH").getD "") name with
    | some path => return .ok ((programAt? [] path).getD name)
    | none => return .error (127, "not found")

/-- Runs a program in the place of the process. -/
def Interpreter.executeStep (i : Interpreter) (words : List String) : Act Nat := do
  match words with
  | [] => return 0
  | name :: arguments =>
    match ← findCommand name with
    | .ok program => i.runProgram program name arguments
    | .error (status, message) =>
      complain (name ++ ": " ++ message)
      return status

end JobMonitor.Shell
