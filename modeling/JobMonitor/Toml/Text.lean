import JobMonitor.Number.FloatText
import JobMonitor.Toml.Reading

set_option autoImplicit false

/-! # Texts and keys of TOML -/

namespace JobMonitor.Toml

/-! ## Escapes -/

/-- The characters that stand behind a backslash for others. -/
def escapes : List (Char × Char) := [
  ('b', '\x08'), ('t', '\t'), ('n', '\n'), ('f', '\x0C'), ('r', '\r'), ('e', '\x1B'),
  ('"', '"'), ('\\', '\\')]

/-- The character with a code of so many hexadecimal digits. -/
def readCode (count : Nat) : Reading Char := do
  let digits ← takeCount count
  require (digits.length = count)
  let code ← demand (naturalInBase? 16 digits)
  require code.isValidChar
  return Char.ofNat code

/-- What stands behind a backslash. -/
def readEscape : Reading Char := do
  let taken ← takeCount 1
  let c ← demand taken.head?
  match escapes.lookup c with
  | some character => return character
  | none =>
    if c = 'x' then readCode 2
    else if c = 'u' then readCode 4
    else if c = 'U' then readCode 8
    else refuse

/-! ## Texts on one line -/

/-- The rest of a text between double quotes. -/
def readQuotedRest : (fuel : Nat) → Reading (List Char)
  | 0 => refuse
  | fuel + 1 => do
    let plain ← takeClass fun c => isLineChar c && c ≠ '"' && c ≠ '\\'
    if ← takeIf "\"" then return plain
    else
      expect "\\"
      let c ← readEscape
      return plain ++ c :: (← readQuotedRest fuel)

/-- A text between double quotes, the first of which has been taken. -/
def readQuoted : Reading String := do
  return String.ofList (← readQuotedRest ((← get).length + 1))

/-- A text between single quotes, the first of which has been taken. Nothing in it is an
    escape. -/
def readLiteral : Reading String := do
  let text ← takeClass fun c => isLineChar c && c ≠ '\''
  expect "'"
  return String.ofList text

/-! ## Texts on several lines -/

/-- Takes the quotes that come next. Three of them end a text, up to two before those are part of
    it. Gives those that are part of it and whether the text ends. -/
def readQuotes (quote : Char) : Reading (List Char × Bool) := do
  let run := (← get).takeWhile (· = quote) |>.take 5
  modify (·.drop run.length)
  if run.length ≥ 3 then return (run.drop 3, true) else return (run, false)

/-- Takes blanks and line breaks. Each turn but the last takes a line break. -/
def skipGap : (fuel : Nat) → Reading Unit
  | 0 => pure ()
  | fuel + 1 => do
    skipBlanks
    if ← takeBreak then skipGap fuel

/-- Takes blanks and line breaks behind a backslash at the end of a line. -/
def skipJoin : Reading Unit := do
  skipBlanks
  require (← takeBreak)
  skipGap ((← get).length + 1)

/-- The rest of a text on several lines, whose line breaks stay as they are. Between single quotes
    nothing is an escape. -/
def readLinesRest (quote : Char) : (fuel : Nat) → Reading (List Char)
  | 0 => refuse
  | fuel + 1 => do
    let plain ← takeClass fun c => isLineChar c && c ≠ quote && (c ≠ '\\' || quote = '\'')
    let more ←
      if (← next) = some quote then do
        let (quotes, isEnd) ← readQuotes quote
        if isEnd then return plain ++ quotes else pure quotes
      else if ← takeIf "\n" then pure ['\n']
      else if ← takeIf "\r\n" then pure ['\r', '\n']
      else do
        expect "\\"
        if ((← next).any fun c => isBlank c || c = '\n' || c = '\r') then
          skipJoin
          pure []
        else pure [← readEscape]
    return plain ++ more ++ (← readLinesRest quote fuel)

/-- A text on several lines, the first three quotes of which have been taken. A line break behind
    them does not count. -/
def readLines (quote : Char) : Reading String := do
  let _ ← takeBreak
  return String.ofList (← readLinesRest quote ((← get).length + 1))

/-- A text of any kind, if one begins here. -/
def readText? : Reading (Option String) := do
  if ← takeIf "\"\"\"" then return some (← readLines '"')
  else if ← takeIf "'''" then return some (← readLines '\'')
  else if ← takeIf "\"" then return some (← readQuoted)
  else if ← takeIf "'" then return some (← readLiteral)
  else return none

/-! ## Keys -/

/-- A character of a key without quotes. -/
def isBareChar (c : Char) : Bool := c.isAlphanum || c = '_' || c = '-'

/-- One part of a key. -/
def readKeyPart : Reading String := do
  if ← takeIf "\"" then readQuoted
  else if ← takeIf "'" then readLiteral
  else
    let name ← takeClass isBareChar
    require !name.isEmpty
    return String.ofList name

/-- The parts of a key, with dots between them. -/
def readKeyParts : (fuel : Nat) → Reading (List String)
  | 0 => refuse
  | fuel + 1 => do
    skipBlanks
    let part ← readKeyPart
    skipBlanks
    if ← takeIf "." then return part :: (← readKeyParts fuel) else return [part]

/-- How many parts a key has at most, and how many lists and tables are inside one another. -/
def maxDepth : Nat := 80

/-- A key. -/
def readKey : Reading (List String) := do
  let parts ← readKeyParts (maxDepth + 1)
  require (parts.length ≤ maxDepth)
  return parts

end JobMonitor.Toml
