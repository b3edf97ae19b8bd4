set_option autoImplicit false

/-! # Reading TOML

A step of the reading takes characters from the front of the text, or refuses it. -/

namespace JobMonitor.Toml

/-- A step of the reading. -/
abbrev Reading := StateT (List Char) Option

/-- The text is not TOML. -/
def refuse {α : Type} : Reading α := StateT.lift none

/-- The text is not TOML unless the condition holds. -/
def require (condition : Bool) : Reading Unit := if condition then pure () else refuse

/-- What a part of the text stands for. -/
def demand {α : Type} : Option α → Reading α := StateT.lift

/-- The next character. -/
def next : Reading (Option Char) := return (← get).head?

/-- Takes the characters of a class. -/
def takeClass (belongs : Char → Bool) : Reading (List Char) :=
  modifyGet fun s => (s.takeWhile belongs, s.dropWhile belongs)

/-- Takes so many characters. -/
def takeCount (n : Nat) : Reading (List Char) := modifyGet fun s => (s.take n, s.drop n)

/-- Takes a word if it comes next. -/
def takeIf (word : String) : Reading Bool := do
  if word.toList.isPrefixOf (← get) then
    modify (·.drop word.length)
    return true
  else return false

/-- Takes a word that has to come next. -/
def expect (word : String) : Reading Unit := do require (← takeIf word)

/-! ## Blanks and comments -/

/-- A blank inside a line. -/
def isBlank (c : Char) : Bool := c = ' ' || c = '\t'

/-- A character that may stand in a line. -/
def isLineChar (c : Char) : Bool := c = '\t' || (c.toNat ≥ 0x20 && c.toNat ≠ 0x7F)

/-- Takes blanks. -/
def skipBlanks : Reading Unit := do
  let _ ← takeClass isBlank
  pure ()

/-- Takes a line break if it comes next. -/
def takeBreak : Reading Bool := do if ← takeIf "\n" then return true else takeIf "\r\n"

/-- Takes blanks and a comment. -/
def skipComment : Reading Unit := do
  skipBlanks
  if (← next) = some '#' then
    let _ ← takeClass isLineChar
    pure ()

/-- What is left behind blanks, comments and line breaks. -/
def dropSpace (inComment : Bool) : List Char → List Char
  | [] => []
  | '\r' :: '\n' :: rest => dropSpace false rest
  | c :: rest =>
    if c = '\n' then dropSpace false rest
    else if c = '#' ∨ (inComment ∧ isLineChar c) then dropSpace true rest
    else if ¬ inComment ∧ isBlank c then dropSpace false rest
    else c :: rest

/-- Takes blanks, comments and line breaks. -/
def skipSpace : Reading Unit := modify (dropSpace false)

/-- Takes the rest of a line, which says nothing. -/
def endLine : Reading Unit := do
  skipComment
  let isBroken ← takeBreak
  require (isBroken || (← get).isEmpty)

end JobMonitor.Toml
