import JobMonitor.Shell.Machine
import JobMonitor.Shell.Arithmetic

set_option autoImplicit false

/-! # Conditions

What the command `test` finds out about texts, numbers and files. Three words with an operator in the
middle are always a comparison; of longer conditions the grammar decides what is an operator. -/

namespace JobMonitor.Shell

/-- A condition that holds or does not, or what is wrong with it. -/
abbrev Finding := Except String

/-- The number that a text is. -/
def testNumber (text : String) : Finding Int :=
  match wholeNumber? text with
  | some n => .ok n
  | none => .error ("Illegal number: " ++ text)

/-- The operators between two words. -/
def comparisons : List (String × (String → String → Finding Bool)) :=
  let numbers (holds : Int → Int → Bool) (a b : String) : Finding Bool :=
    return holds (← testNumber a) (← testNumber b)
  [("=", fun a b => .ok (a = b)), ("!=", fun a b => .ok (a ≠ b)), ("<", fun a b => .ok (a < b)),
    (">", fun a b => .ok (b < a)), ("-eq", numbers (· = ·)), ("-ne", numbers (· ≠ ·)),
    ("-gt", numbers (· > ·)), ("-ge", numbers (· ≥ ·)), ("-lt", numbers (· < ·)), ("-le", numbers (· ≤ ·)),
    ("-nt", fun _ _ => .ok false), ("-ot", fun _ _ => .ok false), ("-ef", fun a b => .ok (a = b))]

/-- The operators before a word that ask about a file. -/
def fileQuestions : List String := [
  "-r", "-w", "-x", "-e", "-f", "-d", "-c", "-b", "-p", "-u", "-g", "-k", "-s", "-h", "-O", "-G", "-L",
  "-S"]

/-- The operators before a word. -/
def unaryTests : List String := "-t" :: "-z" :: "-n" :: fileQuestions

/-- What is true of a file. -/
def answerFile (files : Files) (question : String) (path : Path) : Bool :=
  let isDevice := path = nullDevice || machineDevices.contains path
  let isProgram := (programAt? files.home path).isSome
  let kind := files.kind path
  let isDirectory := files.isDirectory path
  match question with
  | "-e" | "-r" | "-w" | "-O" | "-G" => isDevice || isProgram || (kind matches .ok _)
  | "-x" => isProgram || isDirectory
  | "-f" => isProgram || (kind matches .ok .regular)
  | "-d" => isDirectory
  | "-c" => isDevice
  | "-p" => (kind matches .ok .fifo)
  | "-s" => isProgram || isDirectory || ((files.textAt path).toOption.any fun text => !text.isEmpty)
  | _ => false

/-- What an operator before a word finds out. -/
def unaryTest (files : Files) (operator word : String) : Finding Bool :=
  match operator with
  | "-z" => .ok word.isEmpty
  | "-n" => .ok !word.isEmpty
  | "-t" => do
    let _ ← testNumber word
    return false
  | question => .ok (answerFile files question word)

/-- The first word is an operator before the second one. -/
def beginsUnary : List String → Bool
  | operator :: word :: rest =>
    unaryTests.contains operator && (rest.isEmpty || (comparisons.lookup word).isNone)
  | _ => false

mutual

/-- Conditions with `-o` between them. -/
def testAny (files : Files) : (fuel : Nat) → List String → Finding (Bool × List String)
  | 0, words => .ok (false, words)
  | fuel + 1, words => do
    match ← testAll files fuel words with
    | (holds, "-o" :: rest) =>
      let (other, rest) ← testAny files fuel rest
      return (holds || other, rest)
    | found => return found

/-- Conditions with `-a` between them. -/
def testAll (files : Files) : (fuel : Nat) → List String → Finding (Bool × List String)
  | 0, words => .ok (false, words)
  | fuel + 1, words => do
    match ← testOne files fuel words with
    | (holds, "-a" :: rest) =>
      let (other, rest) ← testAll files fuel rest
      return (holds && other, rest)
    | found => return found

/-- A single condition. -/
def testOne (files : Files) : (fuel : Nat) → List String → Finding (Bool × List String)
  | 0, words => .ok (false, words)
  | _, [] => .ok (false, [])
  | fuel + 1, word :: rest => do
    if word = "!" then
      let (holds, rest) ← testOne files fuel rest
      return (!holds, rest)
    else if word = "(" ∧ ¬ rest.isEmpty then
      if rest.head? = some ")" then return (false, rest.tail)
      else
        match ← testAny files fuel rest with
        | (holds, ")" :: rest) => return (holds, rest)
        | _ => .error "closing paren expected"
    else if beginsUnary (word :: rest) then
      return (← unaryTest files word (rest.headD ""), rest.tail)
    else
      match rest with
      | operator :: others =>
        match comparisons.lookup operator, others with
        | some compare, right :: others => return (← compare word right, others)
        | some _, [] => .error (operator ++ ": argument expected")
        | none, _ => return (!word.isEmpty, rest)
      | [] => return (!word.isEmpty, rest)

end

/-- The condition that some words are. -/
def testGrammar (files : Files) (words : List String) : Finding Bool := do
  let (holds, rest) ← testAny files (4 * words.length + 4) words
  if rest.isEmpty then return holds
  else .error (words.getD (words.length - rest.length - 1) "" ++ ": unexpected operator")

/-- The condition that three words are, unless an exclamation mark is the first one of them. -/
def testThree (files : Files) (left operator right : String) : Finding Bool :=
  match comparisons.lookup operator with
  | some compare => compare left right
  | none =>
    if left = "(" ∧ right = ")" then testGrammar files [operator]
    else if left = "!" then Bool.not <$> testGrammar files [operator, right]
    else testGrammar files [left, operator, right]

/-- The condition that some words are. -/
def testCondition (files : Files) : List String → Finding Bool
  | [] => .ok false
  | [left, operator, right] => testThree files left operator right
  | [a, b, c, d] =>
    if a = "(" ∧ d = ")" then testGrammar files [b, c]
    else if a = "!" then Bool.not <$> testThree files b c d
    else testGrammar files [a, b, c, d]
  | words => testGrammar files words

end JobMonitor.Shell
