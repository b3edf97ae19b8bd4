import JobMonitor.Yaml.Token

set_option autoImplicit false

/-! # The state of a YAML scan

How far a text has been scanned, the tokens so far, and what has to be remembered about the lines
before: the indentations that are open, the flow collections that are open, and the place of a
token that turns out to be a key if a colon follows it. A step of the scan gives nothing if the
text is not YAML. -/

namespace JobMonitor.Yaml

/-- A place at which a key may stand whose colon has not been met yet. -/
structure PendingKey where
  /-- A key may stand there. -/
  isPossible : Bool := false
  /-- The text is wrong if no key stands there. -/
  isRequired : Bool := false
  /-- How many tokens come before it. -/
  token : Nat := 0
  index : Nat := 0
  line : Nat := 0
  column : Nat := 0
deriving Inhabited

/-- An indentation and the one before it. -/
structure Indentation where
  outer : Int
  /-- It is that of a block collection, whose end is a token. -/
  isBlock : Bool

/-- The state of a scan. -/
structure Scanner where
  rest : List Char
  /-- How long the text is, which bounds the steps of a repetition. -/
  size : Nat
  index : Nat := 0
  line : Nat := 0
  column : Nat := 0
  /-- Nothing but blanks has been met on the line. -/
  atLineStart : Bool := true
  /-- The tokens so far, the latest first, and how many they are. -/
  tokens : List Token := []
  count : Nat := 0
  /-- The innermost indentation, or -1. -/
  indent : Int := -1
  indents : List Indentation := []
  /-- How many flow collections are open. -/
  depth : Nat := 0
  /-- A brace or a question mark has begun a mapping in a flow collection. -/
  hasMapping : Bool := false
  /-- A colon has begun a mapping of one pair. -/
  isPairOpen : Bool := false
  /-- The pending key of each open flow collection, innermost first, and that outside of them. -/
  keys : List PendingKey := [{}]
  /-- A key may begin here. -/
  allowsKey : Bool := true
  /-- Where a value may follow its key without a blank. -/
  adjacentAt : Option Nat := none
deriving Inhabited

/-- A step of a scan. -/
abbrev Scan := StateT Scanner Option

/-- The text is not YAML. -/
def fail {α : Type} : Scan α := StateT.lift none

/-- The text is not YAML if the condition holds. -/
def failIf (condition : Bool) : Scan Unit := if condition then fail else pure ()

/-! ## Characters -/

/-- A blank inside a line. -/
def isBlank (c : Char) : Bool := c = ' ' || c = '\t'

/-- A line break. -/
def isBreak (c : Char) : Bool := c = '\n' || c = '\r'

/-- What stands for the end of the text. -/
def endMark : Char := '\x00'

/-- The end of a line. -/
def isLineEnd (c : Char) : Bool := isBreak c || c = endMark

/-- The end of a word. -/
def isWordEnd (c : Char) : Bool := isBlank c || isLineEnd c

/-- A character that means something inside flow collections. -/
def isFlowChar (c : Char) : Bool := c = ',' || c = '[' || c = ']' || c = '{' || c = '}'

/-- The character so many places ahead. -/
def peek (n : Nat) : Scan Char := return (← get).rest[n]?.getD endMark

/-- Goes over a character. -/
def skipChar : Scan Unit := modify fun s =>
  { s with rest := s.rest.tail, index := s.index + 1, column := s.column + 1 }

/-- Goes over a character that is not blank. -/
def skipSolid : Scan Unit := do
  skipChar
  modify fun s => { s with atLineStart := false }

/-- Goes over a line break of one or two characters. -/
def skipBreak : Scan Unit := do
  if (← peek 0) = '\r' ∧ (← peek 1) = '\n' then skipChar
  skipChar
  modify fun s => { s with line := s.line + 1, column := 0, atLineStart := true }

/-- Repeats a step that says whether to go on. Each step that does goes over a character, so as
    many are enough as there are characters left. -/
def repeatStep {α : Type} (step : α → Scan (α × Bool)) : (fuel : Nat) → α → Scan α
  | 0, a => pure a
  | fuel + 1, a => do
    match ← step a with
    | (a, true) => repeatStep step fuel a
    | (a, false) => pure a

/-- Repeats a step as long as it says so. -/
def scanWhile {α : Type} (step : α → Scan (α × Bool)) (a : α) : Scan α := do
  repeatStep step ((← get).size + 1) a

/-- Takes the characters of a class. -/
def takeSolid (belongs : Char → Bool) : Scan String :=
  scanWhile (fun text => do
    let c ← peek 0
    if c ≠ endMark ∧ belongs c then
      skipSolid
      pure (text.push c, true)
    else pure (text, false)) ""

/-- Goes over the rest of a line. -/
def skipComment : Scan Unit := do
  let _ ← takeSolid fun c => !isLineEnd c
  pure ()

/-- The blanks that have been skipped. -/
structure Skipped where
  hasTabs : Bool := false
  hasSpaces : Bool := false

/-- Goes over blanks and a comment. A comment needs a blank before it. -/
def skipToLineEnd (allowsTabs : Bool) : Scan Skipped :=
  scanWhile (fun skipped => do
    let c ← peek 0
    if c = ' ' then
      skipChar
      pure ({ skipped with hasSpaces := true }, true)
    else if c = '\t' ∧ allowsTabs then
      skipChar
      pure ({ skipped with hasTabs := true }, true)
    else if c = '#' then
      failIf (!skipped.hasTabs && !skipped.hasSpaces)
      skipComment
      pure (skipped, true)
    else pure (skipped, false)) {}

/-- A document marker of this character begins here. -/
def isMarker (c : Char) : Scan Bool := do
  let s ← get
  pure (decide (s.column = 0) && s.rest.take 3 == [c, c, c] && isWordEnd (s.rest[3]?.getD endMark))

/-- A document marker begins here. -/
def isAnyMarker : Scan Bool := return (← isMarker '-') || (← isMarker '.')

/-! ## Tokens and keys -/

/-- Adds a token. -/
def emit (t : Token) : Scan Unit := modify fun s =>
  { s with tokens := t :: s.tokens, count := s.count + 1 }

/-- Puts a token before others, behind as many as the position says. -/
def emitAt (position : Nat) (t : Token) : Scan Unit := modify fun s =>
  { s with tokens := s.tokens.insertIdx (s.count - position) t, count := s.count + 1 }

/-- Inside a flow collection. -/
def inFlow : Scan Bool := return decide (0 < (← get).depth)

/-- Says whether a key may begin here. -/
def allowKey (allowed : Bool) : Scan Unit := modify fun s => { s with allowsKey := allowed }

/-- The pending key. -/
def pendingKey : Scan PendingKey := return (← get).keys.headD {}

/-- Sets the pending key. -/
def setPendingKey (k : PendingKey) : Scan Unit := modify fun s => { s with keys := k :: s.keys.tail }

/-- There will be no colon for the pending key. -/
def dropKey : Scan Unit := do
  let k ← pendingKey
  failIf (k.isPossible && k.isRequired)
  setPendingKey { k with isPossible := false }

/-- Remembers that a key may begin here. A token that stands where the keys of the block stand has
    to be one. -/
def saveKey : Scan Unit := do
  let s ← get
  if s.allowsKey then
    let isRequired := decide (s.depth = 0) && decide (s.indent = s.column) && s.indents.head?.any (·.isBlock)
    dropKey
    setPendingKey { isPossible := true, isRequired, token := s.count, index := s.index,
                    line := s.line, column := s.column }

/-- Outside of flow collections a key and its colon stand on one line and not too far apart. -/
def dropStaleKeys : Scan Unit := do
  let s ← get
  let isStale (k : PendingKey) : Bool :=
    k.isPossible && decide (s.depth = 0) && (decide (k.line < s.line) || decide (k.index + 1024 < s.index))
  failIf (s.keys.any fun k => isStale k && k.isRequired)
  set { s with keys := s.keys.map fun k => if isStale k then { k with isPossible := false } else k }

/-! ## Indentation -/

/-- Closes indentations as long as one is open that satisfies the condition. -/
def closeIndents (condition : Scanner → Indentation → Bool) : (fuel : Nat) → Scan Unit
  | 0 => pure ()
  | fuel + 1 => do
    let s ← get
    match s.indents with
    | [] => pure ()
    | i :: outer =>
      if condition s i then
        set { s with indent := i.outer, indents := outer }
        if i.isBlock then emit .blockEnd
        closeIndents condition fuel

/-- Closes the indentations that are deeper than a column. -/
def unindent (column : Int) : Scan Unit := do
  if ¬ (← inFlow) then closeIndents (fun s _ => decide (s.indent > column)) (← get).indents.length

/-- Closes the innermost indentations that are not those of block collections. -/
def unindentLoose : Scan Unit := do
  closeIndents (fun _ i => !i.isBlock) (← get).indents.length

/-- Opens the indentation of a block collection if it is deeper. Its token comes before others. -/
def indentBlock (column position : Nat) (t : Token) : Scan Unit := do
  if ¬ (← inFlow) then
    let s ← get
    match s.indents with
    | i :: outer =>
      if s.indent ≤ column ∧ ¬ i.isBlock then set { s with indent := i.outer, indents := outer }
    | [] => pure ()
    let s ← get
    if s.indent < column then
      set { s with indent := column, indents := ⟨s.indent, true⟩ :: s.indents }
      emitAt position t

/-- What follows has to stand at least one column further in. -/
def indentOne : Scan Unit := modify fun s =>
  if decide (s.depth = 0) && s.indents.head?.any (·.isBlock) then
    { s with indent := s.indent + 1, indents := ⟨s.indent, false⟩ :: s.indents }
  else s

end JobMonitor.Yaml
