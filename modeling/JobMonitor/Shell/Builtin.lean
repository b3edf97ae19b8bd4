import JobMonitor.Shell.Condition
import JobMonitor.Shell.Expansion
import JobMonitor.Shell.Format

set_option autoImplicit false

/-! # Commands of the shell

The commands that a shell does itself. Each gives its status, or a fault when it is used wrongly. A
fault in a special one ends the shell. -/

namespace JobMonitor.Shell

/-- The number that an argument is. -/
def naturalArgument (text : String) : Act Nat := do
  match wholeNumber? text with
  | some n => if 0 ≤ n ∧ n ≤ Int32.maxValue.toInt then return n.toNat else fault ("Illegal number: " ++ text)
  | none => fault ("Illegal number: " ++ text)

/-- The number that the first argument is, or 1. -/
def countArgument : List String → Act Nat
  | [] => return 1
  | text :: _ => naturalArgument text

/-! ## Leaving -/

/-- Ends the shell. -/
def exitShell (arguments : List String) : Act Nat := do
  match arguments with
  | [] =>
    let shell ← theShell
    throw (.exits (shell.trapStatus.getD shell.status))
  | text :: _ => throw (.exits (← naturalArgument text))

/-- Ends a function, or a script that is read in. -/
def returnFrom (arguments : List String) : Act Nat := do
  if let text :: _ := arguments then setStatus (← naturalArgument text)
  throw .returns

/-- Leaves loops. Outside of them nothing happens. -/
def leaveLoops (stop : Nat → Stop) (arguments : List String) : Act Nat := do
  let count ← countArgument arguments
  if count = 0 then fault "Illegal number: 0"
  let count := min count (← theShell).loops
  setStatus 0
  if count = 0 then return 0 else throw (stop count)

/-! ## Variables -/

/-- A name and the value that is assigned to it, if there is one. -/
def splitAssignment (text : String) : String × Option String :=
  let name := text.toList.takeWhile (· ≠ '=')
  (String.ofList name,
    if name.length = text.length then none
    else some (String.ofList (text.toList.drop (name.length + 1))))

/-- Marks variables, which may be assigned to at the same time. -/
def markVariables (mark : Variable → Variable) (arguments : List String) : Act Nat := do
  for text in arguments do
    if text ≠ "-p" then
      let (name, value) := splitAssignment text
      if ¬ isVariableName name then fault (name ++ ": bad variable name")
      value.forM (assign name)
      modifyShell (·.modifyVariable name mark)
  return 0

/-- Forgets variables or functions. -/
def unset (arguments : List String) : Act Nat := do
  let isFunction := arguments.head? = some "-f"
  let names := if isFunction ∨ arguments.head? = some "-v" then arguments.tail else arguments
  for name in names do
    if isFunction then
      modifyShell fun s => { s with functions := s.functions.filter (·.1 ≠ name) }
    else
      if ((← theShell).bindings.lookup name).any (·.isReadOnly) then fault (name ++ ": is read only")
      if ¬ isVariableName name then fault (name ++ ": bad variable name")
      modifyShell fun s => { s with bindings := s.bindings.filter (·.1 ≠ name) }
  return 0

/-- Hides variables for as long as the function is run. -/
def hideVariables (arguments : List String) : Act Nat := do
  for text in arguments do
    let (name, value) := splitAssignment text
    let shell ← theShell
    match shell.hidden with
    | none => fault "not in a function"
    | some hidden =>
      if ¬ isVariableName name then fault (name ++ ": bad variable name")
      modifyShell ({ · with hidden := some ((name, shell.bindings.lookup name) :: hidden) })
      value.forM (assign name)
  return 0

/-- The options of the shell by name. -/
def optionNames : List (String × Char) := [
  ("allexport", 'a'), ("errexit", 'e'), ("ignoreeof", 'I'), ("interactive", 'i'), ("monitor", 'm'),
  ("noclobber", 'C'), ("noexec", 'n'), ("noglob", 'f'), ("nolog", 'N'), ("notify", 'b'),
  ("nounset", 'u'),
  ("privileged", 'p'), ("debug", 'D'), ("login", 'l'),
  ("stdin", 's'), ("verbose", 'v'), ("vi", 'V'), ("emacs", 'E'), ("xtrace", 'x')]

/-- Sets an option or takes it back. -/
def setOption (isOn : Bool) (option : Char) : Act Unit :=
  modifyShell fun s =>
    let others := s.options.filter (· ≠ option)
    { s with options := if isOn then option :: others else others }

/-- Sets options by their letters. The letter `o` stands for the name in the next argument. -/
def setLetters (isOn : Bool) : List Char → List String → Act (List String)
  | [], arguments => return arguments
  | 'o' :: letters, arguments => do
    match arguments with
    | [] => setLetters isOn letters []
    | name :: rest =>
      match optionNames.lookup name with
      | none => fault ("Illegal option -o " ++ name)
      | some option =>
        setOption isOn option
        setLetters isOn letters rest
  | letter :: letters, arguments => do
    if (optionNames.map Prod.snd).contains letter then
      setOption isOn letter
      setLetters isOn letters arguments
    else fault ("Illegal option -" ++ letter.toString)

/-- Sets options, up to what is none. Gives what is left, and whether that becomes the arguments. -/
def setOptions : (fuel : Nat) → List String → Act (List String × Bool)
  | 0, arguments => return (arguments, true)
  | _, [] => return ([], false)
  | fuel + 1, text :: rest => do
    match text.toList with
    | ['-', '-'] => return (rest, true)
    | ['-'] => return (rest, !rest.isEmpty)
    | '-' :: letters => setOptions fuel (← setLetters true letters rest)
    | '+' :: letters => setOptions fuel (← setLetters false letters rest)
    | _ => return (text :: rest, true)

/-- Sets options and arguments. -/
def setShell (texts : List String) : Act Nat := do
  let (arguments, isReplaced) ← setOptions (texts.length + 1) texts
  if isReplaced then modifyShell ({ · with arguments })
  return 0

/-- Drops arguments. -/
def shift (texts : List String) : Act Nat := do
  let count ← countArgument texts
  if count > (← theShell).arguments.length then fault "can't shift that many"
  modifyShell fun s => { s with arguments := s.arguments.drop count }
  return 0

/-! ## Input -/

/-- The characters of a line. Of each it is told whether a backslash stands before it. -/
def readEscaped (isRaw : Bool) : List Char → List (Char × Bool)
  | [] => []
  | ['\\'] => if isRaw then [('\\', true)] else []
  | c :: d :: rest =>
    if c = '\\' ∧ ¬ isRaw then (d, true) :: readEscaped isRaw rest
    else (c, isRaw && c = '\\') :: readEscaped isRaw (d :: rest)
  | [c] => [(c, false)]

/-- Cuts a line into as many fields as there are names. The last one gets what is left. -/
def readFields (separators : List Char) : List String → List (Char × Bool) → List (String × String)
  | [], _ => []
  | name :: names, line =>
    let isSeparator (c : Char × Bool) : Bool := separators.contains c.1 && !c.2
    let isBlank (c : Char × Bool) : Bool := isSeparator c && isSpaceChar c.1
    let line := line.dropWhile isBlank
    if names.isEmpty then
      [(name, String.ofList ((line.reverse.dropWhile isBlank).reverse.map Prod.fst))]
    else
      let field := line.takeWhile (!isSeparator ·)
      let rest := (line.drop field.length).dropWhile isBlank
      let rest := match rest with
        | c :: more => if isSeparator c then more else rest
        | [] => []
      (name, String.ofList (field.map Prod.fst)) :: readFields separators names rest

/-- Reads a line into variables. -/
def readLineInto (arguments : List String) : Act Nat := do
  let names := arguments.filter (· ≠ "-r")
  if names.isEmpty then fault "arg count"
  let (line, isComplete) ← takeLine 0
  let chars := readEscaped (arguments.contains "-r") line.toList
  let fields := readFields (← theShell).separators names chars
  fields.forM fun (name, value) => do
    if ¬ isVariableName name then fault (name ++ ": bad variable name")
    assign name value
  return if isComplete then 0 else 1

/-! ## Options -/

/-- Takes the next option from arguments. The first letters of the arguments up to the place that is
    reached have been taken. Gives whether there was one. -/
def takeOption (letters name : String) (arguments : List String) : Act Bool := do
  let shell ← theShell
  let place := ((shell.assigned? "OPTIND").bind fun text => natural? text.toList).getD 1
  let word := (arguments[place - 1]?.getD "").toList
  let ahead := word.drop (shell.lettersTaken + 1)
  let goTo (place taken : Nat) : Act Unit := do
    modifyShell ({ · with lettersTaken := taken })
    assign "OPTIND" (decimal place)
  let isQuiet := letters.startsWith ":"
  match word, ahead with
  | ['-', '-'], _ =>
    goTo (place + 1) 0
    assign name "?"
    return false
  | '-' :: _, letter :: rest =>
    let next : Act Unit :=
      if rest.isEmpty then goTo (place + 1) 0 else goTo place (shell.lettersTaken + 1)
    match (letters.toList.dropWhile fun c => c ≠ letter ∨ c = ':') with
    | [] =>
      next
      if isQuiet then assign "OPTARG" letter.toString else complain ("Illegal option -" ++ letter.toString)
      assign name "?"
    | _ :: ':' :: _ =>
      match rest, arguments[place]? with
      | [], none =>
        goTo (place + 1) 0
        if isQuiet then assign "OPTARG" letter.toString
        else complain ("No arg for -" ++ letter.toString ++ " option")
        assign name (if isQuiet then ":" else "?")
      | [], some argument =>
        goTo (place + 2) 0
        assign "OPTARG" argument
        assign name letter.toString
      | rest, _ =>
        goTo (place + 1) 0
        assign "OPTARG" (String.ofList rest)
        assign name letter.toString
    | _ =>
      next
      assign name letter.toString
    return true
  | _, _ =>
    assign name "?"
    return false

/-- Takes the next option from the arguments of the shell, or from others. -/
def nextOption (arguments : List String) : Act Nat := do
  match arguments with
  | letters :: name :: others =>
    let own := (← theShell).arguments
    let isTaken ← takeOption letters name (if others.isEmpty then own else others)
    return if isTaken then 0 else 1
  | _ => fault "Usage: getopts optstring var [arg]"

/-! ## Directories -/

/-- The directory that the shell is in. -/
def workingDirectory : Act Path := return "/" ++ "/".intercalate (← get).files.home

/-- Goes to a directory. -/
def changeDirectory (arguments : List String) : Act Nat := do
  let shell ← theShell
  let arguments := arguments.filter fun text => text ≠ "-L" ∧ text ≠ "-P" ∧ text ≠ "--"
  let target := match arguments.head? with
    | none => (shell.assigned? "HOME").getD ""
    | some "-" => (shell.assigned? "OLDPWD").getD ""
    | some path => path
  let old ← workingDirectory
  let files := (← get).files
  if target ≠ "" then
    match files.locate target with
    | .ok place =>
      if files.kindAt? place ≠ some .directory then fault ("can't cd to " ++ target)
      modify fun s => { s with files := { s.files with home := place } }
      assign "OLDPWD" old
      assign "PWD" (← workingDirectory)
    | .error _ => fault ("can't cd to " ++ target)
  if arguments.head? = some "-" then say (← workingDirectory)
  return 0

/-! ## Signals -/

/-- Says what is to be done about signals. -/
def setTraps (arguments : List String) : Act Nat := do
  let arguments := if arguments.head? = some "--" then arguments.tail else arguments
  let (action, names) := match arguments with
    | [] => (none, [])
    | [name] => (none, [name])
    | action :: names =>
      if (natural? action.toList).isSome then (none, arguments)
      else (if action = "-" then none else some action, names)
  for name in names do
    match signal? 0 name with
    | none =>
      emit 2 ("trap: " ++ name ++ ": bad trap\n")
      return 1
    | some signal =>
      modifyShell fun s =>
        { s with traps := (action.map fun a => (signal, a)).toList ++ s.traps.filter (·.1 ≠ signal) }
  return 0

/-- Sends a signal to a process that is not waited for at once. It does nothing about signals from a
    keyboard. -/
def Background.receive (b : Background) (now signal : Nat) : Background :=
  let hasEnded := b.ending.any (·.1 ≤ now)
  if hasEnded ∨ [2, 3].contains signal ∨ standardEffect signal ≠ .kills then b
  else { b with ending := some (now, .killed signal) }

/-- Sends a signal to a process, if there is one of that number. -/
def sendSignal (signal : Nat) (process : Nat) : Act Bool := do
  let s ← get
  if process = 0 ∨ process = s.shell.process ∨ process = s.shell.parent then
    let process := if process = 0 then s.shell.process else process
    let sent : SentSignal := ⟨process, s.now, signal⟩
    if signal ≠ 0 then set { s with signals := s.signals ++ [sent] }
    return true
  else
    match s.backgrounds.find? (·.process = process) with
    | none => return false
    | some b =>
      let others := s.backgrounds.filter (·.process ≠ process)
      set { s with backgrounds := b.receive s.now signal :: others }
      return s.shell.children.contains process || b.ending.all (s.now < ·.1)

/-- The process that the shell has started and that a text refers to. -/
def childOf (text : String) : Act Nat := do
  let children := (← theShell).children
  let name := (text.drop 1).toString
  let child? := match natural? name.toList with
    | some n => if n = 0 then none else children.reverse[n - 1]?
    | none => if name = "" ∨ name = "%" ∨ name = "+" then children.head? else
        if name = "-" then children[1]? else none
  match child? with
  | some child => return child
  | none => fault ("No such job: " ++ text)

/-- How `kill` is used. -/
def killUsage : String :=
  "Usage: kill [-s sigspec | -signum | -sigspec] [pid | job]... or\nkill -l [exitstatus]"

/-- Sends a signal to processes. -/
def sendSignals (signal : Nat) (targets : List String) : Act Nat := do
  if targets.isEmpty then fault killUsage
  let mut status := 0
  for target in targets do
    let isSent ←
      if target.startsWith "%" then do
        -- a job has no group of processes of its own
        let _ ← childOf target
        pure false
      else if target.startsWith "-" then do
        let _ ← naturalArgument (target.drop 1).toString
        pure false
      else do sendSignal signal (← naturalArgument target)
    if ¬ isSent then
      complain "No such process\n"
      status := 1
  return status

/-- Sends a signal that is given by an option. -/
def kill (arguments : List String) : Act Nat := do
  match arguments with
  | [] => sendSignals endSignal []
  | first :: rest =>
    if ¬ first.startsWith "-" then sendSignals endSignal arguments
    else
      let named (name : String) (targets : List String) : Act Nat := do
        match signal? 1 name with
        | some signal => sendSignals signal (if targets.head? = some "--" then targets.tail else targets)
        | none => fault ("invalid signal number or name: " ++ name)
      match signal? 1 (first.drop 1).toString, (first.drop 1).toString.toList with
      | some signal, _ => sendSignals signal rest
      | none, ['-'] => sendSignals endSignal rest
      | none, ['s'] =>
        match rest with
        | name :: targets => named name targets
        | [] => fault "No arg for -s option"
      | none, 's' :: name => named (String.ofList name) rest
      | none, ['l'] =>
        for text in rest do
          let n ← naturalArgument text
          match namedSignals.find? (·.2 = if n > 128 then n - 128 else n) with
          | some (name, _) => say name
          | none => fault ("invalid signal number or exit status: " ++ text)
        if rest.isEmpty then (namedSignals.drop 1).forM fun (name, _) => say name
        return 0
      | none, option :: _ => fault ("Illegal option -" ++ option.toString)
      | none, [] => fault ("Illegal number: " ++ first)

/-- Waits for a process that the shell has started. A signal may interrupt that. -/
def awaitChild (process : Nat) : Act Nat := do
  let s ← get
  match s.backgrounds.find? (·.process = process) with
  | none => return 127
  | some b =>
    if ¬ s.shell.children.contains process then return 127
    else
      let interrupts (sent : SentSignal) : Bool :=
        sent.process = s.shell.process && !s.shell.isCopy && b.ending.all (sent.time < ·.1)
          && match s.shell.traps.lookup sent.signal with
            | some action => action ≠ ""
            | none => standardEffect sent.signal ≠ .nothing
      match s.signals.find? interrupts, b.ending with
      | some sent, _ =>
        set { s with now := max s.now sent.time }
        return 128 + sent.signal
      | none, some (time, ending) =>
        set { s with now := max s.now time }
        modifyShell fun shell => { shell with children := shell.children.filter (· ≠ process) }
        return endStatus ending
      | none, none => throw .neverEnds

/-- Waits for processes that the shell has started, or for all of them. -/
def wait (arguments : List String) : Act Nat := do
  if arguments.isEmpty then
    for child in (← theShell).children.reverse do
      let status ← awaitChild child
      if (← theShell).children.contains child then return status
    return 0
  else
    let mut status := 0
    for text in arguments do
      let process ← if text.startsWith "%" then childOf text else naturalArgument text
      status ← awaitChild process
    return status

/-! ## Finding out -/

/-- Finds out whether a condition holds. -/
def test (arguments : List String) : Act Nat := do
  match testCondition (← get).files arguments with
  | .ok holds => return if holds then 0 else 1
  | .error message => fault message

/-- Prints by a format. -/
def printf (arguments : List String) : Act Nat := do
  match arguments with
  | [] => fault "usage: printf format [arg ...]"
  | "--" :: [] => fault "usage: printf format [arg ...]"
  | format :: arguments =>
    let (format, arguments) :=
      if format = "--" then (arguments.headD "", arguments.tail) else (format, arguments)
    match printfText format arguments with
    | none => fault "invalid directive"
    | some (text, isFine) =>
      let status ← print text
      return if isFine then status else 1

/-- The commands of the shell that need nothing but the shell. -/
def plainBuiltins : List (String × (List String → Act Nat)) := [
  (":", fun _ => return 0), ("true", fun _ => return 0), ("false", fun _ => return 1),
  ("echo", fun texts => print (echoText texts true)),
  ("printf", printf), ("test", test),
  ("[", fun texts => if texts.getLast? = some "]" then test texts.dropLast else fault "missing ]"),
  ("exit", exitShell), ("return", returnFrom), ("break", leaveLoops .leaves),
  ("continue", leaveLoops .repeats),
  ("export", markVariables ({ · with isExported := true })),
  ("readonly", markVariables ({ · with isReadOnly := true })), ("unset", unset),
  ("local", hideVariables),
  ("set", setShell), ("shift", shift), ("read", readLineInto), ("cd", changeDirectory),
  ("pwd", fun _ => do
    say (← workingDirectory)
    return 0),
  ("trap", setTraps), ("getopts", nextOption), ("kill", kill), ("wait", wait), ("umask", fun _ => return 0),
  ("ulimit", fun _ => return 0), ("times", fun _ => return 0), ("hash", fun _ => return 0),
  ("jobs", fun _ => return 0), ("alias", fun _ => return 0), ("unalias", fun _ => return 0),
  ("fg", fun _ => fault "No current job"), ("bg", fun _ => fault "No current job")]

/-- The commands of the shell that run others. -/
def runningBuiltins : List String := ["eval", ".", "exec", "command", "type"]

end JobMonitor.Shell
