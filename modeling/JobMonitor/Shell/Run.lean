import JobMonitor.Shell.Program

set_option autoImplicit false

/-! # Running commands

What each kind of command does. A command runs the commands in it by an interpreter that has less depth
left than itself; with none left, the memory of the shell is used up. -/

namespace JobMonitor.Shell

/-! ## Redirections -/

/-- Why a file cannot be opened or made, in the words of the shell. -/
def openingError (isMade : Bool) : OsError → String
  | .notFound => if isMade then "Directory nonexistent" else "No such file"
  | .isDirectory => "Is a directory"
  | .notDirectory => "Not a directory"
  | .nameTooLong => "File name too long"
  | _ => "Permission denied"

/-- Opens a file for reading. -/
def openForReading (file : Nat) (path : Path) : Act Unit := do
  if path = nullDevice then setStream file .nothing
  else if path = "/dev/stdin" then setStream file (← streamAt 0)
  else
    match (← get).files.textAt path with
    | .ok text => setStream file (.buffer (← newBuffer text))
    | .error e => fault ("cannot open " ++ path ++ ": " ++ openingError false e)

/-- Opens a file for writing. -/
def openForWriting (file : Nat) (path : Path) (keepsContent : Bool) : Act Unit := do
  if path = nullDevice then setStream file .nothing
  else if path = "/dev/stdout" then setStream file (← streamAt 1)
  else if path = "/dev/stderr" then setStream file (← streamAt 2)
  else
    let s ← get
    match s.files.findOrMake path with
    | .ok (id, files) =>
      let files := if keepsContent then files else files.modify id fun n =>
        if n.kind = .regular then { n with bytes := [] } else n
      set { s with files }
      setStream file (.file id)
    | .error e => fault ("cannot create " ++ path ++ ": " ++ openingError true e)

/-- Redirects an open file. -/
def Interpreter.redirect (i : Interpreter) : Redirection → Act Unit
  | .mk file kind target => do
    match kind with
    | .lines =>
      let text := glyphText (← i.wordGlyphs target)
      setStream file (.buffer (← newBuffer text))
    | .duplicate =>
      let text ← i.text target
      if text = "-" then setStream file .closed
      else
        match (natural? text.toList).bind (theStreams (← theShell)) with
        | some .closed => fault (text ++ ": Bad file descriptor")
        | some stream => setStream file stream
        | none => fault (text ++ ": Bad file descriptor")
    | .read => do openForReading file (← i.text target)
    | .write => do openForWriting file (← i.text target) false
    | .append => do openForWriting file (← i.text target) true
where
  /-- The open file of a number. -/
  theStreams (s : Memory) (n : Nat) : Option Stream := s.streams.lookup n

/-- Redirects open files. A redirection that fails has the status 2. -/
def Interpreter.redirectAll (i : Interpreter) (redirections : List Redirection) : Act Bool :=
  tryCatch (do
    redirections.forM i.redirect
    return true) fun
    | .fault => return false
    | stop => throw stop

/-! ## Commands by name -/

/-- The name is that of a command of the shell. -/
def isBuiltin (name : String) : Bool :=
  (plainBuiltins.lookup name).isSome || runningBuiltins.contains name

/-- Where a command is found by its name. -/
def whereIs (name : String) : Act (Option String) := do
  let shell ← theShell
  if (shell.functions.lookup name).isSome ∨ reservedWords.contains name ∨ isBuiltin name then
    return some name
  else if '/' ∈ name.toList then
    return if (programAt? (← get).files.home name).isSome then some name else none
  else return searchProgram? ((shell.assigned? "PATH").getD "") name

/-- What a command is by its name, in the words of the shell. -/
def whatIs (name : String) : Act String := do
  let shell ← theShell
  let kind := if reservedWords.contains name then " is a shell keyword"
    else if (shell.functions.lookup name).isSome then " is a shell function"
    else if specialCommands.contains name then " is a special shell builtin"
    else " is a shell builtin"
  match ← whereIs name with
  | some place => return name ++ if place = name ∧ '/' ∉ name.toList then kind else " is " ++ place
  | none => return name ++ ": not found"

/-- Tells where commands are found, or what they are. -/
def tellWhere (isWordy : Bool) (names : List String) : Act Nat := do
  let mut status := 0
  for name in names do
    let place ← whereIs name
    if isWordy then say (← whatIs name) else place.forM say
    if place.isNone then status := 127
  return status

/-- Reads a script in. -/
def Interpreter.readIn (i : Interpreter) (path : Path) : Act Nat := do
  let files := (← get).files
  let directories := pieces ':' (((← theShell).assigned? "PATH").getD "")
  let places := if '/' ∈ path.toList then [path] else directories.map (· ++ "/" ++ path)
  match if path = nullDevice then some "" else places.findSome? fun p => (files.textAt p).toOption with
  | none =>
    if '/' ∈ path.toList then fault ("cannot open " ++ path ++ ": No such file")
    else fault (path ++ ": not found")
  | some script =>
    tryCatch (i.runText false script) fun
      | .returns => pure ()
      | stop => throw stop
    return (← theShell).status

/-- Puts a program in the place of the shell. -/
def Interpreter.replaceShell (i : Interpreter) (words : List String) : Act Nat := do
  match words with
  | [] => return 0
  | name :: _ =>
    match ← findCommand name with
    | .error (status, message) =>
      complain (name ++ ": " ++ message)
      throw (.exits status)
    | .ok _ =>
      modifyShell fun s => { s with traps := s.traps.filter (·.2 = ""), builtin := "" }
      let status ← i.execute words
      i.heed
      throw (.exits status)

/-- What a command of the shell does. -/
def Interpreter.runBuiltin (i : Interpreter) (isTested : Bool) (name : String) (arguments : List String) :
    Act Nat := do
  match name, arguments with
  | "eval", texts =>
    i.runText isTested (" ".intercalate texts)
    return (← theShell).status
  | ".", path :: _ => i.readIn path
  | ".", [] => return 0
  | "exec", words => i.replaceShell words
  | "type", names => tellWhere true names
  | "command", "-v" :: names => tellWhere false names
  | "command", "-V" :: names => tellWhere true names
  | "command", "-p" :: words | "command", "--" :: words | "command", words =>
    if words.isEmpty then return 0
    else if (words.headD "").startsWith "-" then fault ("Illegal option " ++ words.headD "")
    else
      tryCatch (i.invoke isTested false words) fun
        | .fault => return 2
        | stop => throw stop
  | _, _ =>
    match plainBuiltins.lookup name with
    | some builtin => builtin arguments
    | none => return 127

/-- Calls a function. -/
def Interpreter.call (i : Interpreter) (isTested : Bool) (body : Command) (arguments : List String) :
    Act Nat := do
  let outer ← theShell
  modifyShell ({ · with arguments, hidden := some [], loops := 0 })
  let restore : Act Unit := modifyShell fun s =>
    let hidden := s.hidden.getD []
    let bindings := hidden.foldl (fun bindings (name, old) =>
      (old.map fun v => (name, v)).toList ++ bindings.filter (·.1 ≠ name)) s.bindings
    { s with arguments := outer.arguments, hidden := outer.hidden, loops := outer.loops, bindings }
  afterwards (tryCatch (i.run isTested body) fun
    | .returns => pure ()
    | stop => throw stop) restore
  return (← theShell).status

/-- Runs a program and waits for it. -/
def Interpreter.runAndWait (i : Interpreter) (words : List String) : Act Nat := do
  let process ← newProcess
  awaited (← inProcess (fun s =>
    { s with process, parent := s.process, traps := s.traps.filter (·.2 = ""), children := []
             isCopy := false, builtin := "" }) do
      throw (.exits (← i.execute words)))

/-- Runs a command by its name. -/
def Interpreter.invokeStep (i : Interpreter) (isTested mayBeFunction : Bool) (words : List String) :
    Act Nat := do
  match words with
  | [] => return 0
  | name :: arguments =>
    let shell ← theShell
    match if mayBeFunction then shell.functions.lookup name else none with
    | some body => i.call isTested body arguments
    | none =>
      if isBuiltin name then
        modifyShell ({ · with builtin := name })
        let restore := modifyShell ({ · with builtin := shell.builtin })
        afterwards (tryCatch (i.runBuiltin isTested name arguments) fun stop => do
          if stop = .fault ∧ ¬ specialCommands.contains name then return 2 else throw stop) restore
      else i.runAndWait words

/-- Assigns to variables. -/
def Interpreter.assignAll (i : Interpreter) (assignments : List (String × Word)) : Act Unit := do
  assignments.forM fun (name, word) => do assign name (← i.text word)

/-- Lets the programs that are run know of variables. -/
def exportAll (assignments : List (String × Word)) : Act Unit :=
  assignments.forM fun (name, _) =>
    modifyShell (·.modifyVariable name ({ · with isExported := true }))

/-- Assigns to variables for as long as an action takes. -/
def Interpreter.assigning {α : Type} (i : Interpreter) (assignments : List (String × Word))
    (action : Act α) : Act α := do
  let before := (← theShell).bindings
  i.assignAll assignments
  exportAll assignments
  let names := assignments.map Prod.fst
  afterwards action (modifyShell fun s =>
    let others := s.bindings.filter (!names.contains ·.1)
    { s with bindings := before.filter (names.contains ·.1) ++ others })

/-- Runs a simple command. -/
def Interpreter.runSimple (i : Interpreter) (isTested : Bool) (assignments : List (String × Word))
    (words : List Word) (redirections : List Redirection) : Act Unit := do
  modifyShell ({ · with outputStatus := none })
  let fields ← i.fields words
  let functions := (← theShell).functions
  let isFunction := fields.head?.any fun name => (functions.lookup name).isSome
  let isSpecial := !isFunction && fields.head?.any (specialCommands.contains ·)
  if fields = ["exec"] then
    if ← i.redirectAll redirections then setStatus 0 else throw .fault
  else
    keepingStreams do
      if ¬ (← i.redirectAll redirections) then
        if isSpecial then throw .fault else setStatus 2
      else if fields.isEmpty then
        i.assignAll assignments
        setStatus ((← theShell).outputStatus.getD 0)
      else if isSpecial then
        i.assignAll assignments
        if fields.head? = some "exec" then exportAll assignments
        setStatus (← i.invoke isTested true fields)
      else setStatus (← i.assigning assignments (i.invoke isTested true fields))

/-! ## Loops -/

/-- Runs a part of a loop. Tells whether the loop goes on. -/
def inLoop (action : Act Unit) : Act Bool := do
  modifyShell fun s => { s with loops := s.loops + 1 }
  let leaveOne : Act Unit := modifyShell fun s => { s with loops := s.loops - 1 }
  afterwards (tryCatch (do
    action
    return true) fun
    | .leaves 1 => return false
    | .leaves (n + 1) => throw (.leaves n)
    | .repeats 1 => return true
    | .repeats (n + 1) => throw (.repeats n)
    | stop => throw stop) leaveOne

/-- A loop that takes more turns than this never ends. -/
def endlessTurns : Nat := 100000

/-- Takes turns in a loop. The status is that of the last turn. -/
def Interpreter.takeTurns (i : Interpreter) (isTested untilSuccess : Bool) (condition body : Command) :
    (fuel : Nat) → (last : Nat) → Act Unit
  | 0, _ => throw .neverEnds
  | fuel + 1, last => do
    let goesOn ← inLoop (i.run true condition)
    let holds := ((← theShell).status = 0) != untilSuccess
    if goesOn && holds then
      if ← inLoop (i.run isTested body) then
        i.takeTurns isTested untilSuccess condition body fuel (← theShell).status
    else setStatus last

/-- Goes over values in a loop. -/
def Interpreter.goOver (i : Interpreter) (isTested : Bool) (name : String) (body : Command) :
    List String → Act Unit
  | [] => pure ()
  | value :: rest => do
    assign name value
    if ← inLoop (i.run isTested body) then i.goOver isTested name body rest

/-! ## Pipelines -/

/-- Runs commands at the same time, each of which reads what the one before it prints. -/
def Interpreter.runStages (i : Interpreter) (isTested : Bool) (input : Option Stream) (begin end' : Nat) :
    List Command → Act Unit
  | [] => modify ({ · with now := end' })
  | command :: rest => do
    let read := input.toList.map fun stream => (0, stream)
    let write ← if rest.isEmpty then pure [] else do pure [(1, Stream.buffer (← newBuffer ""))]
    let redirected (s : Memory) : Memory := { s with streams := write ++ read ++ s.streams }
    let ending ← i.subshell redirected (i.run isTested command)
    -- what prints without end does not outlast what reads it
    let buffers := (← get).buffers
    let hasPrinted : Bool := match write with
      | (_, .buffer n) :: _ => buffers.getD n "" ≠ ""
      | _ => false
    setStatus (← if ending.isNone ∧ hasPrinted then pure 0 else awaited ending)
    let end' := max end' (← get).now
    modify ({ · with now := begin })
    i.runStages isTested ((write.head?.map Prod.snd).or (some .nothing)) begin end' rest

/-! ## All commands -/

/-- A command that fails ends the shell if it has been told so, unless its failure is looked at. -/
def Interpreter.check (i : Interpreter) (isTested : Bool) : Act Unit := do
  i.heed
  let shell ← theShell
  if shell.has 'e' ∧ shell.status ≠ 0 ∧ ¬ isTested then throw (.exits shell.status)

/-- Finds the branch that a text selects. -/
def Interpreter.findBranch (i : Interpreter) (subject : List Char) :
    List (List Word × Command) → Act (Option Command)
  | [] => return none
  | (patterns, body) :: rest => do
    let isHit ← patterns.anyM fun word => do
      return patternMatches (glyphPattern (← i.wordGlyphs word)) subject
    if isHit then return some body else i.findBranch subject rest

/-- Runs a command. -/
def Interpreter.runCommand (i : Interpreter) (isTested : Bool) (command : Command) : Act Unit := do
  match command with
  | .simple line assignments words redirections =>
    modifyShell ({ · with line })
    i.runSimple isTested assignments words redirections
    i.check isTested
  | .pipeline isNegated commands =>
    match isNegated, commands with
    | true, [command] => i.run true command
    | _, _ =>
      let now := (← get).now
      i.runStages (isTested || isNegated) none now now commands
    if isNegated then modifyShell fun s => { s with status := if s.status = 0 then 1 else 0 }
    i.check (isTested || isNegated)
  | .choice first ifFailed second =>
    i.run true first
    if ((← theShell).status = 0) != ifFailed then i.run isTested second
  | .sequence commands => commands.forM (i.run isTested)
  | .background command =>
    let redirected (s : Memory) : Memory := { s with streams := (0, .nothing) :: s.streams }
    let process ← i.start redirected (i.run false command)
    modifyShell fun s =>
      { s with children := process :: s.children, lastBackground := some process, status := 0 }
  | .subshell body =>
    setStatus (← awaited (← i.subshell id (i.run isTested body)))
    i.check isTested
  | .redirected command redirections =>
    keepingStreams do
      if ← i.redirectAll redirections then i.run isTested command else setStatus 2
    i.check isTested
  | .conditional condition body otherwise =>
    i.run true condition
    if (← theShell).status = 0 then i.run isTested body
    else
      match otherwise with
      | some command => i.run isTested command
      | none => setStatus 0
  | .loop untilSuccess condition body => i.takeTurns isTested untilSuccess condition body endlessTurns 0
  | .forEach name words body =>
    let values ← match words with
      | some words => i.fields words
      | none => do pure (← theShell).arguments
    if values.isEmpty then setStatus 0 else i.goOver isTested name body values
  | .select word branches =>
    let subject ← i.text word
    match ← i.findBranch subject.toList branches with
    | some body => if body matches .sequence [] then setStatus 0 else i.run isTested body
    | none => setStatus 0
  | .function name body =>
    modifyShell fun s =>
      { s with functions := (name, body) :: s.functions.filter (·.1 ≠ name), status := 0 }

/-- Runs a command, unless the shell has been told to run none. -/
def Interpreter.runStep (i : Interpreter) (isTested : Bool) (command : Command) : Act Unit := do
  if ¬ (← theShell).has 'n' then i.runCommand isTested command

/-- The signal that a shell dies of when its memory is used up. -/
def memorySignal : Nat := 11

/-- An interpreter with some depth left. -/
def interpreter : (depth : Nat) → Interpreter
  | 0 =>
    { run := fun _ _ => throw (.dies memorySignal), expand := fun _ => throw (.dies memorySignal)
      invoke := fun _ _ _ => throw (.dies memorySignal), execute := fun _ => throw (.dies memorySignal) }
  | depth + 1 =>
    let i := interpreter depth
    { run := i.runStep, expand := i.wordGlyphs, invoke := i.invokeStep, execute := i.executeStep }

/-- How deeply commands may stand in others. -/
def maxDepth : Nat := 2000

end JobMonitor.Shell
