import JobMonitor.Number.Decimal
import JobMonitor.Shell.Script

set_option autoImplicit false

/-! # Reading scripts

A script is read command by command: what stands on a line is read as a whole before any of it is
run, and what follows only after that. So a mistake does not keep the lines before it from being
run. -/

namespace JobMonitor.Shell

/-- What is left of a script and the number of the line where that begins. -/
structure Source where
  rest : List Char
  line : Nat := 1
deriving Inhabited

/-- A step of the reading, which takes characters from the front or refuses the script. -/
abbrev Reading := StateT Source Option

/-- The text is not a script. -/
def refuse {α : Type} : Reading α := StateT.lift none

/-- The text is not a script unless the condition holds. -/
def require (condition : Bool) : Reading Unit := if condition then pure () else refuse

/-! ## Characters -/

/-- The next character. -/
def next : Reading (Option Char) := return (← get).rest.head?

/-- Takes so many characters. -/
def skip (count : Nat) : Reading Unit := modify fun s =>
  { rest := s.rest.drop count, line := s.line + (s.rest.take count).count '\n' }

/-- Takes a text if it comes next. -/
def takeIf (text : String) : Reading Bool := do
  if text.toList.isPrefixOf (← get).rest then
    skip text.length
    return true
  else return false

/-- Takes a text that has to come next. -/
def expect (text : String) : Reading Unit := do require (← takeIf text)

/-- Takes the characters of a class. -/
def takeClass (belongs : Char → Bool) : Reading String := do
  let taken := (← get).rest.takeWhile belongs
  skip taken.length
  return String.ofList taken

/-- A character that ends a word. -/
def isDelimiter (c : Char) : Bool := " \t\n;&|<>()".toList.contains c

/-- A character at the start of a name. -/
def startsName (c : Char) : Bool := c.isAlpha || c = '_'

/-- A character of a name. -/
def isNameChar (c : Char) : Bool := c.isAlphanum || c = '_'

/-- A name of a variable. -/
def isName (text : String) : Bool :=
  text.toList.head?.any startsName && text.toList.all isNameChar

/-- A character that names a parameter of the shell itself. -/
def isSpecialName (c : Char) : Bool := "@*#?-$!".toList.contains c

/-! ## Blanks -/

/-- How many blanks, characters of a comment and line breaks come next. Line breaks that are taken away
    by a backslash count in any case. -/
def blanksAhead (acrossLines inComment : Bool) : List Char → Nat
  | [] => 0
  | c :: rest =>
    if c = '\n' then if acrossLines then 1 + blanksAhead acrossLines false rest else 0
    else if inComment ∨ c = '#' then 1 + blanksAhead acrossLines true rest
    else if c = ' ' ∨ c = '\t' then 1 + blanksAhead acrossLines false rest
    else
      match c, rest with
      | '\\', '\n' :: rest => 2 + blanksAhead acrossLines false rest
      | _, _ => 0

/-- Takes blanks and a comment. -/
def skipBlanks : Reading Unit := do skip (blanksAhead false false (← get).rest)

/-- Takes blanks, comments and line breaks. -/
def skipLines : Reading Unit := do skip (blanksAhead true false (← get).rest)

/-! ## Reserved words -/

/-- The words that a command cannot begin with because they mean something else. -/
def reservedWords : List String := [
  "if", "then", "else", "elif", "fi", "do", "done", "case", "esac", "while", "until", "for", "in",
  "\x7b", "\x7d", "!"]

/-- The commands a fault in which ends the shell. -/
def specialCommands : List String := [
  ".", ":", "break", "continue", "eval", "exec", "exit", "export", "local", "readonly", "return", "set",
  "shift", "times", "trap", "unset"]

/-- The reserved word that comes next. -/
def reserved? : Reading (Option String) := do
  skipBlanks
  let rest := (← get).rest
  let word := String.ofList (rest.takeWhile fun c => !isDelimiter c)
  return if reservedWords.contains word then some word else none

/-- Takes a reserved word if it comes next. -/
def takeWord (word : String) : Reading Bool := do
  if (← reserved?) = some word then takeIf word else return false

/-- Takes a reserved word that has to come next. -/
def expectWord (word : String) : Reading Unit := do require (← takeWord word)

/-! ## Pieces -/

/-- Where pieces stand, which decides what ends them and what is quoted. -/
inductive Surroundings where
  | word
  | quotes
  /-- In a reference between braces, which may be quoted. -/
  | braces (isQuoted : Bool)
  /-- In so many parentheses. -/
  | arithmetic (depth : Nat)
  /-- In lines that are the input of a command. -/
  | lines

/-- What stands here is quoted. -/
def Surroundings.isQuoted : Surroundings → Bool
  | .word => false
  | .braces isQuoted => isQuoted
  | _ => true

/-- A backslash before this character is dropped where all is quoted. -/
def Surroundings.escapes (s : Surroundings) (c : Char) : Bool :=
  c = '$' || c = '\\' || c.toNat = 0x60 ||
    match s with
    | .lines => false
    | .braces _ => c = '"' || c.toNat = 0x7D
    | _ => c = '"'

/-- Adds a character to pieces, the last of which comes first. -/
def pushChar (pieces : List Piece) (c : Char) (isQuoted : Bool) : List Piece :=
  match pieces with
  | .text content q :: rest =>
    if q = isQuoted then .text (content.push c) q :: rest
    else .text (String.ofList [c]) isQuoted :: pieces
  | _ => .text (String.ofList [c]) isQuoted :: pieces

/-- Adds a text to pieces, the last of which comes first. -/
def pushText (pieces : List Piece) (text : String) : List Piece :=
  if text.isEmpty then .text "" true :: pieces
  else text.toList.foldl (fun pieces c => pushChar pieces c true) pieces

/-- The kind of a redirection by its sign. -/
def redirectionSigns : List (String × RedirectionKind) := [
  ("<&", .duplicate), (">&", .duplicate), (">>", .append), (">|", .write), ("<>", .read),
  ("<", .read), (">", .write)]

/-- The sign of a redirection that comes next. -/
def takeSign : Reading (Option (String × RedirectionKind)) :=
  redirectionSigns.findSomeM? fun (sign, kind) => do
    return if ← takeIf sign then some (sign, kind) else none

/-- The text between backquotes and what is behind it. Backslashes before some characters are
    dropped. -/
def backquoted (isQuoted : Bool) : List Char → Option (List Char × List Char)
  | [] => none
  | '\\' :: c :: rest =>
    (backquoted isQuoted rest).map fun (text, rest) =>
      if c = '$' ∨ c = '\\' ∨ c.toNat = 0x60 ∨ (isQuoted ∧ c = '"') then (c :: text, rest)
      else ('\\' :: c :: text, rest)
  | c :: rest =>
    if c.toNat = 0x60 then some ([], rest)
    else (backquoted isQuoted rest).map fun (text, rest) => (c :: text, rest)

/-- How a reference between braces goes on behind its name. -/
def takeAdjustment : Reading (Option (Adjustment × Bool)) := do
  let countsEmpty ← takeIf ":"
  if ← takeIf "-" then return some (.orElse, countsEmpty)
  else if ← takeIf "=" then return some (.assign, countsEmpty)
  else if ← takeIf "?" then return some (.demand, countsEmpty)
  else if ← takeIf "+" then return some (.instead, countsEmpty)
  else if countsEmpty then return none
  else if ← takeIf "%%" then return some (.cut true true, false)
  else if ← takeIf "%" then return some (.cut true false, false)
  else if ← takeIf "##" then return some (.cut false true, false)
  else if ← takeIf "#" then return some (.cut false false, false)
  else return none

/-- The name of a parameter that comes next. -/
def takeParameter (isBraced : Bool) : Reading (Option String) := do
  match ← next with
  | none => return none
  | some c =>
    if startsName c then return some (← takeClass isNameChar)
    else if isDigitChar c then
      if isBraced then return some (← takeClass isDigitChar)
      else
        skip 1
        return some (String.ofList [c])
    else if isSpecialName c then
      skip 1
      return some (String.ofList [c])
    else return none

/-- The lines up to one that consists of a word, and what is behind that. -/
def linesUpTo (word : List Char) (dropsTabs : Bool) : (fuel : Nat) → List Char →
    List Char × List Char
  | 0, text => (text, [])
  | fuel + 1, text =>
    if text.isEmpty then ([], [])
    else
      let line := text.takeWhile (· ≠ '\n')
      let isLast := line.length = text.length
      let rest := text.drop (line.length + 1)
      let line := if dropsTabs then line.dropWhile (· = '\t') else line
      if line = word then ([], rest)
      else
        let (more, rest) := linesUpTo word dropsTabs fuel rest
        (line ++ (if isLast then [] else ['\n']) ++ more, rest)

/-- The text that a word spells if nothing in it is a reference, and whether a part of it is
    quoted. -/
def literalText (word : Word) : String × Bool :=
  word.foldl (fun (text, isQuoted) piece =>
    match piece with
    | .text content q => (text ++ content, isQuoted || q)
    | _ => (text, isQuoted)) ("", false)

/-- What a word assigns to a name. -/
def assignment? : Word → Option (String × Word)
  | .text content false :: rest =>
    let name := String.ofList (content.toList.takeWhile isNameChar)
    match content.toList.drop name.length with
    | '=' :: value =>
      if isName name then
        some (name, if value.isEmpty then rest else .text (String.ofList value) false :: rest)
      else none
    | _ => none
  | _ => none

mutual

/-- Reads pieces, the last of which comes first, up to what ends them. -/
def readPieces (s : Surroundings) (pieces : List Piece) : (fuel : Nat) → Reading (List Piece)
  | 0 => refuse
  | fuel + 1 => do
    let q := s.isQuoted
    match ← next, s with
    | none, .word | none, .lines => return pieces
    | none, _ => refuse
    | some '"', .quotes =>
      skip 1
      return pieces
    | some '(', .arithmetic depth =>
      skip 1
      readPieces (.arithmetic (depth + 1)) (pushChar pieces '(' q) fuel
    | some ')', .arithmetic (depth + 1) =>
      skip 1
      readPieces (.arithmetic depth) (pushChar pieces ')' q) fuel
    | some ')', .arithmetic 0 =>
      expect "))"
      return pieces
    | some c, s =>
      if (s matches .word) ∧ isDelimiter c then return pieces
      else if (s matches .braces _) ∧ c.toNat = 0x7D then
        skip 1
        return pieces
      else
        skip 1
        if c = '\\' then
          match ← next with
          | none => readPieces s (pushChar pieces c true) fuel
          | some d =>
            if d = '\n' then
              skip 1
              readPieces s pieces fuel
            else if ¬ q ∨ s.escapes d then
              skip 1
              readPieces s (pushChar pieces d true) fuel
            else readPieces s (pushChar pieces c q) fuel
        else if c = '\'' ∧ ¬ q then
          let text ← takeClass (· ≠ '\'')
          expect "'"
          readPieces s (pushText pieces text) fuel
        else if c = '"' ∧ (s matches .word | .braces _) then
          let inner ← readPieces .quotes [] fuel
          let inner := if inner.isEmpty then [.text "" true] else inner
          readPieces s (inner ++ pieces) fuel
        else if c = '$' then
          let piece ← readDollar q fuel
          match piece with
          | some piece => readPieces s (piece :: pieces) fuel
          | none => readPieces s (pushChar pieces c q) fuel
        else if c.toNat = 0x60 then
          match backquoted (s matches .quotes) (← get).rest with
          | none => refuse
          | some (text, rest) =>
            let line := (← get).line
            set { rest := text, line : Source }
            let script ← readList fuel
            require (← get).rest.isEmpty
            set { rest, line : Source }
            readPieces s (.output script q :: pieces) fuel
        else readPieces s (pushChar pieces c q) fuel

/-- Reads what stands behind a dollar sign, which may stand for itself. -/
def readDollar (isQuoted : Bool) : (fuel : Nat) → Reading (Option Piece)
  | 0 => refuse
  | fuel + 1 => do
    if ← takeIf "((" then
      return some (.arithmetic (← readPieces (.arithmetic 0) [] fuel).reverse isQuoted)
    else if ← takeIf "(" then
      let script ← readList fuel
      skipBlanks
      expect ")"
      return some (.output script isQuoted)
    else if ← takeIf "\x7b" then return some (← readBraces isQuoted fuel)
    else return (← takeParameter false).map (.reference · isQuoted)

/-- Reads a reference behind its opening brace. -/
def readBraces (isQuoted : Bool) : (fuel : Nat) → Reading Piece
  | 0 => refuse
  | fuel + 1 => do
    let text := (← get).rest
    let isLength := text.head? = some '#' && text[1]?.any fun c =>
      isNameChar c || (isSpecialName c && text[2]?.any (·.toNat = 0x7D))
    if isLength then
      skip 1
      let name ← takeParameter true
      if ← takeIf "\x7d" then return .length (name.getD "")
      else
        let _ ← readPieces (.braces isQuoted) [] fuel
        return .broken
    else
      match ← takeParameter true with
      | none =>
        let _ ← readPieces (.braces isQuoted) [] fuel
        return .broken
      | some name =>
        if ← takeIf "\x7d" then return .reference name isQuoted
        else
          match ← takeAdjustment with
          | none =>
            let _ ← readPieces (.braces isQuoted) [] fuel
            return .broken
          | some (adjustment, countsEmpty) =>
            let isWordQuoted := isQuoted && !(adjustment matches .cut _ _)
            let word ← readPieces (.braces isWordQuoted) [] fuel
            return .adjusted name adjustment countsEmpty word.reverse isQuoted

/-- Reads a word. -/
def readWord : (fuel : Nat) → Reading Word
  | 0 => refuse
  | fuel + 1 => do
    let pieces ← readPieces .word [] fuel
    require !pieces.isEmpty
    return pieces.reverse

/-- Reads a redirection, if one comes next. -/
def readRedirection : (fuel : Nat) → Reading (Option Redirection)
  | 0 => refuse
  | fuel + 1 => do
    skipBlanks
    let before ← get
    let digits ← takeClass isDigitChar
    let file? := if digits.length ≤ 1 then some (natural? digits.toList) else none
    if ← takeIf "<<" then
      let dropsTabs ← takeIf "-"
      skipBlanks
      let (word, isQuoted) := literalText (← readWord fuel)
      let s ← get
      let line := s.rest.takeWhile (· ≠ '\n')
      let behind := s.rest.drop (line.length + 1)
      let (text, rest) := linesUpTo word.toList dropsTabs (behind.length + 1) behind
      let pieces ←
        if isQuoted then pure [.text (String.ofList text) true]
        else do
          set { rest := text, line := s.line : Source }
          pure (← readPieces .lines [] fuel).reverse
      set { rest := if behind.isEmpty then line else line ++ '\n' :: rest, line := s.line : Source }
      return some (.mk ((file?.getD none).getD 0) .lines pieces)
    else
      match file?, ← takeSign with
      | some file, some (sign, kind) =>
        skipBlanks
        let target ← readWord fuel
        return some (.mk (file.getD (if sign.startsWith "<" then 0 else 1)) kind target)
      | _, _ =>
        set before
        return none

/-- Reads redirections behind a command. -/
def readRedirections : (fuel : Nat) → Reading (List Redirection)
  | 0 => refuse
  | fuel + 1 => do
    match ← readRedirection fuel with
    | some r => return r :: (← readRedirections fuel)
    | none => return []

/-- Reads a list of commands up to what cannot begin one. -/
def readList : (fuel : Nat) → Reading Command
  | 0 => refuse
  | fuel + 1 => do return .sequence (← readCommands false fuel)

/-- Reads commands with separators between them, on one line or on several. -/
def readCommands (isLine : Bool) : (fuel : Nat) → Reading (List Command)
  | 0 => refuse
  | fuel + 1 => do
    if isLine then skipBlanks else skipLines
    match ← next, ← reserved? with
    | none, _ => return []
    | some c, word =>
      let ends := ["then", "else", "elif", "fi", "do", "done", "esac", "\x7d"]
      let isEnd := c = ')' || c = '\n' || ";;".toList.isPrefixOf (← get).rest
      if isEnd || word.any ends.contains then return []
      else
        let command ← readChoices (← readPipeline fuel) fuel
        skipBlanks
        if ";;".toList.isPrefixOf (← get).rest then return [command]
        else if ← takeIf ";" then return command :: (← readCommands isLine fuel)
        else if ← takeIf "&" then return .background command :: (← readCommands isLine fuel)
        else if ¬ isLine ∧ (← next) = some '\n' then
          return command :: (← readCommands isLine fuel)
        else return [command]

/-- Reads commands that depend on one another. -/
def readChoices (first : Command) : (fuel : Nat) → Reading Command
  | 0 => refuse
  | fuel + 1 => do
    skipBlanks
    if ← takeIf "&&" then
      skipLines
      readChoices (.choice first false (← readPipeline fuel)) fuel
    else if ← takeIf "||" then
      skipLines
      readChoices (.choice first true (← readPipeline fuel)) fuel
    else return first

/-- Reads commands the output of each of which is the input of the next one. -/
def readPipeline : (fuel : Nat) → Reading Command
  | 0 => refuse
  | fuel + 1 => do
    let isNegated ← takeWord "!"
    let commands ← readStages fuel
    match isNegated, commands with
    | false, [command] => return command
    | _, _ => return .pipeline isNegated commands

/-- Reads the commands of a pipeline. -/
def readStages : (fuel : Nat) → Reading (List Command)
  | 0 => refuse
  | fuel + 1 => do
    let command ← readCommand fuel
    skipBlanks
    if "||".toList.isPrefixOf (← get).rest then return [command]
    else if ← takeIf "|" then
      skipLines
      return command :: (← readStages fuel)
    else return [command]

/-- Reads a list of commands in which there has to be one. -/
def readBody : (fuel : Nat) → Reading Command
  | 0 => refuse
  | fuel + 1 => do
    let commands ← readCommands false fuel
    require !commands.isEmpty
    return .sequence commands

/-- Reads the condition, the body and what follows of a conditional. -/
def readConditional : (fuel : Nat) → Reading Command
  | 0 => refuse
  | fuel + 1 => do
    let condition ← readBody fuel
    expectWord "then"
    let body ← readBody fuel
    if ← takeWord "elif" then
      return .conditional condition body (some (← readConditional fuel))
    else if ← takeWord "else" then
      let otherwise ← readBody fuel
      expectWord "fi"
      return .conditional condition body (some otherwise)
    else
      expectWord "fi"
      return .conditional condition body none

/-- Reads the branches of a selection. -/
def readBranches : (fuel : Nat) → Reading (List (List Word × Command))
  | 0 => refuse
  | fuel + 1 => do
    skipLines
    if ← takeWord "esac" then return []
    else
      let _ ← takeIf "("
      let patterns ← readPatterns fuel
      let body := Command.sequence (← readCommands false fuel)
      skipLines
      if ← takeIf ";;" then return (patterns, body) :: (← readBranches fuel)
      else
        expectWord "esac"
        return [(patterns, body)]

/-- Reads the patterns of a branch. -/
def readPatterns : (fuel : Nat) → Reading (List Word)
  | 0 => refuse
  | fuel + 1 => do
    skipBlanks
    let pattern ← readWord fuel
    skipBlanks
    if ← takeIf "|" then return pattern :: (← readPatterns fuel)
    else
      expect ")"
      return [pattern]

/-- Reads the body of a loop. -/
def readLoopBody : (fuel : Nat) → Reading Command
  | 0 => refuse
  | fuel + 1 => do
    skipLines
    expectWord "do"
    let body ← readBody fuel
    expectWord "done"
    return body

/-- Reads the words on a line. -/
def readWords : (fuel : Nat) → Reading (List Word)
  | 0 => refuse
  | fuel + 1 => do
    skipBlanks
    match ← next with
    | none => return []
    | some c => if isDelimiter c then return [] else return (← readWord fuel) :: (← readWords fuel)

/-- Reads what follows the name of a loop over words. -/
def readForEach (name : String) : (fuel : Nat) → Reading Command
  | 0 => refuse
  | fuel + 1 => do
    skipLines
    let words ←
      if ← takeWord "in" then do
        let words ← readWords fuel
        require ((← next).any fun c => c = ';' || c = '\n')
        pure (some words)
      else pure none
    skipBlanks
    let _ ← takeIf ";"
    return .forEach name words (← readLoopBody fuel)

/-- Reads a command that begins with a reserved word or a parenthesis, if one comes next. -/
def readCompound : (fuel : Nat) → Reading (Option Command)
  | 0 => refuse
  | fuel + 1 => do
    match ← reserved? with
    | none =>
      if ← takeIf "(" then
        let body ← readBody fuel
        skipBlanks
        expect ")"
        return some (.subshell body)
      else return none
    | some word =>
      skip word.length
      if word = "\x7b" then
        let body ← readBody fuel
        expectWord "\x7d"
        return some body
      else if word = "if" then return some (← readConditional fuel)
      else if word = "while" ∨ word = "until" then
        let condition ← readBody fuel
        return some (.loop (word = "until") condition (← readLoopBody fuel))
      else if word = "for" then
        skipBlanks
        let name ← takeClass fun c => !isDelimiter c
        require (isName name)
        return some (← readForEach name fuel)
      else if word = "case" then
        skipBlanks
        let subject ← readWord fuel
        skipLines
        expectWord "in"
        return some (.select subject (← readBranches fuel))
      else refuse

/-- Reads a command. -/
def readCommand : (fuel : Nat) → Reading Command
  | 0 => refuse
  | fuel + 1 => do
    match ← readCompound fuel with
    | some command =>
      match ← readRedirections fuel with
      | [] => return command
      | redirections => return .redirected command redirections
    | none => readSimple (← get).line [] [] [] fuel

/-- Reads a simple command. A name with parentheses behind it begins a function. -/
def readSimple (line : Nat) (assignments : List (String × Word)) (words : List Word)
    (redirections : List Redirection) : (fuel : Nat) → Reading Command
  | 0 => refuse
  | fuel + 1 => do
    match ← readRedirection fuel with
    | some r => readSimple line assignments words (redirections ++ [r]) fuel
    | none =>
      let c ← next
      if c = some '(' ∧ words.length = 1 ∧ assignments.isEmpty ∧ redirections.isEmpty then
        skip 1
        skipBlanks
        expect ")"
        let (name, isQuoted) := literalText (words.headD [])
        require (isName name && !isQuoted && !specialCommands.contains name)
        skipLines
        return .function name (← readCommand fuel)
      else if c.all isDelimiter then
        require !(assignments.isEmpty && words.isEmpty && redirections.isEmpty)
        return .simple line assignments words redirections
      else
        let word ← readWord fuel
        match words, assignment? word with
        | [], some a => readSimple line (assignments ++ [a]) words redirections fuel
        | _, _ => readSimple line assignments (words ++ [word]) redirections fuel

end

/-- Reads the commands on the next line. There are none at the end of the script. -/
def readLine : Reading (Option Command) := do
  skipBlanks
  if (← get).rest.isEmpty then return none
  else
    let commands ← readCommands true (8 * (← get).rest.length + 20)
    skipBlanks
    require ((← next).all (· = '\n'))
    let _ ← takeIf "\n"
    return some (.sequence commands)

end JobMonitor.Shell
