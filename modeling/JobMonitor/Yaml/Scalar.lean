import JobMonitor.Yaml.Scanner

set_option autoImplicit false

/-! # Scanning YAML texts

Plain, quoted and block texts. A single line break inside a plain or quoted text is a space, and of
several the first one does not count. -/

namespace JobMonitor.Yaml

/-! ## Folding lines -/

/-- A text and the blanks behind it that count only if more of the text follows. -/
structure Folded where
  text : String := ""
  /-- Blanks on the line. -/
  blanks : String := ""
  /-- A line break has been met. -/
  isBroken : Bool := false
  /-- How many more line breaks have been met. -/
  moreBreaks : Nat := 0

/-- So many line breaks. -/
def breaks (n : Nat) : String := String.ofList (List.replicate n '\n')

/-- What the blanks and line breaks behind a text amount to. -/
def Folded.gap (f : Folded) : String :=
  if f.isBroken then if f.moreBreaks = 0 then " " else breaks f.moreBreaks else f.blanks

/-- The text goes on. -/
def Folded.resume (f : Folded) : Folded := { text := f.text ++ f.gap }

/-- The text goes on with a character. -/
def Folded.push (f : Folded) (c : Char) : Folded := { f with text := f.text.push c }

/-- A line break follows. -/
def Folded.break (f : Folded) : Folded :=
  if f.isBroken then { f with moreBreaks := f.moreBreaks + 1 }
  else { f with blanks := "", isBroken := true }

/-! ## Plain texts -/

/-- A plain text goes on with this character, of which the next one is known. -/
def continuesPlain (isInFlow : Bool) (c next : Char) : Bool :=
  if isWordEnd c then false
  else if c = ':' then !(isWordEnd next || (isInFlow && isFlowChar next))
  else !(isInFlow && isFlowChar c)

/-- The characters of a plain text up to the next blank. -/
def scanPlainWord (isInFlow : Bool) (f : Folded) : Scan Folded :=
  scanWhile (fun f => do
    let c ← peek 0
    if continuesPlain isInFlow c (← peek 1) then
      skipSolid
      pure (f.push c, true)
    else pure (f, false)) f

/-- The blanks and line breaks inside or behind a plain text that has to be indented so far. -/
def scanPlainBlanks (indent : Int) (f : Folded) : Scan Folded :=
  scanWhile (fun f => do
    let c ← peek 0
    let s ← get
    if isBreak c then
      skipBreak
      pure (f.break, true)
    else if ¬ isBlank c then pure (f, false)
    else if ¬ s.atLineStart then
      skipChar
      pure ({ f with blanks := f.blanks.push c }, true)
    else if s.column < indent ∧ c = '\t' then
      let _ ← skipToLineEnd true
      failIf !(isLineEnd (← peek 0))
      pure (f, true)
    else
      skipChar
      pure (f, true)) f

/-- One word of a plain text and the blanks behind it. -/
def scanPlainPart (isInFlow : Bool) (indent : Int) (f : Folded) : Scan (Folded × Bool) := do
  let c ← peek 0
  if ((← get).atLineStart && (← isAnyMarker)) || c = '#' then pure (f, false)
  else
    failIf (isInFlow && c = '-' && isFlowChar (← peek 1))
    let f ← if continuesPlain isInFlow c (← peek 1) then scanPlainWord isInFlow f.resume else pure f
    let c ← peek 0
    if ¬ (isBlank c ∨ isBreak c) then pure (f, false)
    else
      let f ← scanPlainBlanks indent f
      pure (f, isInFlow || decide (indent ≤ (← get).column))

/-- A plain text. -/
def scanPlain : Scan Unit := do
  unindentLoose
  let s ← get
  let isInFlow := decide (0 < s.depth)
  let indent := s.indent + 1
  failIf (isInFlow && decide ((s.column : Int) < indent))
  let f ← scanWhile (scanPlainPart isInFlow indent) {}
  if (← get).atLineStart then allowKey true
  emit (.scalar true f.text)

/-! ## Quoted texts -/

/-- The value of a hexadecimal digit. -/
def hexValue? (c : Char) : Option Nat :=
  if '0' ≤ c ∧ c ≤ '9' then some (c.toNat - 48)
  else if 'a' ≤ c ∧ c ≤ 'f' then some (c.toNat - 87)
  else if 'A' ≤ c ∧ c ≤ 'F' then some (c.toNat - 55)
  else none

/-- The character with a code of so many hexadecimal digits. -/
def scanCode : (digits : Nat) → (value : Nat) → Scan Char
  | 0, value => if value.isValidChar then pure (Char.ofNat value) else fail
  | digits + 1, value => do
    match hexValue? (← peek 0) with
    | some d =>
      skipSolid
      scanCode digits (16 * value + d)
    | none => fail

/-- The characters that stand behind a backslash for others. -/
def escapes : List (Char × Char) := [
  ('0', '\x00'), ('a', '\x07'), ('b', '\x08'), ('t', '\t'), ('\t', '\t'), ('n', '\n'),
  ('v', '\x0B'), ('f', '\x0C'), ('r', '\r'), ('e', '\x1B'), (' ', ' '), ('"', '"'), ('/', '/'),
  ('\\', '\\'), ('N', '\u0085'), ('_', '\u00A0'), ('L', '\u2028'), ('P', '\u2029')]

/-- The character that stands behind a backslash. -/
def scanEscape : Scan Char := do
  skipSolid
  let c ← peek 0
  skipSolid
  match escapes.lookup c with
  | some character => pure character
  | none =>
    if c = 'x' then scanCode 2 0
    else if c = 'u' then scanCode 4 0
    else if c = 'U' then scanCode 8 0
    else fail

/-- The characters of a quoted text up to the next blank or the closing quote. A backslash at the
    end of a line takes the line break away. -/
def scanQuotedWord (isSingle : Bool) (f : Folded) : Scan Folded :=
  scanWhile (fun f => do
    let c ← peek 0
    if isWordEnd c then pure (f, false)
    else if isSingle ∧ c = '\'' ∧ (← peek 1) = '\'' then
      skipSolid
      skipSolid
      pure (f.push c, true)
    else if c = (if isSingle then '\'' else '"') then pure (f, false)
    else if ¬ isSingle ∧ c = '\\' then
      if isBreak (← peek 1) then
        skipSolid
        skipBreak
        pure ({ f with isBroken := true, moreBreaks := 0 }, false)
      else pure (f.push (← scanEscape), true)
    else
      skipSolid
      pure (f.push c, true)) f

/-- The blanks and line breaks inside a quoted text. -/
def scanQuotedBlanks (f : Folded) : Scan Folded :=
  scanWhile (fun f => do
    let c ← peek 0
    let s ← get
    if isBreak c then
      skipBreak
      pure (f.break, true)
    else if ¬ isBlank c then pure (f, false)
    else
      failIf (f.isBroken && c = '\t' && decide ((s.column : Int) < s.indent))
      skipChar
      pure (if f.isBroken then f else { f with blanks := f.blanks.push c }, true)) f

/-- One word of a quoted text and the blanks behind it. -/
def scanQuotedPart (isSingle : Bool) (f : Folded) : Scan (Folded × Bool) := do
  failIf (← isAnyMarker)
  failIf ((← peek 0) = endMark)
  let s ← get
  failIf (decide ((s.column : Int) < s.indent))
  let f ← scanQuotedWord isSingle f
  let isJoined := f.isBroken
  if (← peek 0) = (if isSingle then '\'' else '"') then pure (f, false)
  else
    let f ← scanQuotedBlanks f
    if isJoined then pure ({ text := f.text ++ breaks f.moreBreaks }, true)
    else pure (f.resume, true)

/-- A quoted text. What may follow it on its line is little. -/
def scanQuoted (isSingle : Bool) : Scan Unit := do
  let first := (← get).line
  skipSolid
  let f ← scanWhile (scanQuotedPart isSingle) {}
  skipSolid
  let _ ← skipToLineEnd true
  let c ← peek 0
  let s ← get
  let isFine :=
    if s.depth = 0 then isLineEnd c || (c = ':' && first = s.line)
    else isLineEnd c || c = ':' || c = ',' || c = '}' || c = ']'
  failIf !isFine
  emit (.scalar false f.text)

/-! ## Block texts -/

/-- What becomes of the line breaks at the end of a block text. -/
inductive Chomping where
  /-- There is one line break at the end. -/
  | clip
  /-- There is none. -/
  | strip
  /-- There are as many as in the source. -/
  | keep
deriving DecidableEq

/-- A sign that says what becomes of the line breaks at the end. -/
def scanChomping? : Scan (Option Chomping) := do
  let c ← peek 0
  if c = '+' then
    skipSolid
    pure (some .keep)
  else if c = '-' then
    skipSolid
    pure (some .strip)
  else pure none

/-- A digit that says how far a block text is indented, or 0. -/
def scanIncrement : Scan Nat := do
  let c ← peek 0
  if c.isDigit then
    failIf (c = '0')
    skipSolid
    pure (c.toNat - 48)
  else pure 0

/-- The signs at the start of a block text, in either order. -/
def scanBlockHeader : Scan (Chomping × Nat) := do
  match ← scanChomping? with
  | some chomping => pure (chomping, ← scanIncrement)
  | none =>
    let increment ← scanIncrement
    if increment = 0 then pure (.clip, 0) else pure ((← scanChomping?).getD .clip, increment)

/-- Goes over the spaces up to a column, or all of them. Gives the column. -/
def skipSpaces (most : Option Nat) : Scan Nat := do
  scanWhile (fun () => do
    let c ← peek 0
    let s ← get
    if c = ' ' ∧ most.all (fun m => decide (s.column < m)) then
      skipChar
      pure ((), true)
    else pure ((), false)) ()
  return (← get).column

/-- Goes over empty lines and the indentation behind them. Gives how many lines there were and the
    furthest column. -/
def skipEmptyLines (most : Option Nat) : Scan (Nat × Nat) :=
  scanWhile (fun (lines, furthest) => do
    let column ← skipSpaces most
    if isBreak (← peek 0) then
      skipBreak
      pure ((lines + 1, max furthest column), true)
    else pure ((lines, max furthest column), false)) (0, 0)

/-- A block text so far. -/
structure BlockText where
  text : String := ""
  /-- The line break behind it. -/
  isBroken : Bool := false
  /-- How many more line breaks follow. -/
  moreBreaks : Nat
  /-- The last line began with a blank. -/
  wasBlank : Bool := false

/-- What the line breaks before the next line amount to. In a folded text the line break between
    two lines that do not begin with a blank is a space. -/
def BlockText.gap (b : BlockText) (isLiteral isBlankNext : Bool) : String :=
  if ¬ isLiteral ∧ b.isBroken ∧ ¬ b.wasBlank ∧ ¬ isBlankNext then
    if b.moreBreaks = 0 then " " else breaks b.moreBreaks
  else breaks ((if b.isBroken then 1 else 0) + b.moreBreaks)

/-- One line of a block text. -/
def scanBlockLine (isLiteral : Bool) (indent : Nat) (b : BlockText) : Scan (BlockText × Bool) := do
  let c ← peek 0
  if (← get).column ≠ indent ∨ c = endMark then pure (b, false)
  else if indent = 0 ∧ (← isAnyMarker) then pure (b, false)
  else
    let isBlankNext := isBlank c
    let text := b.text ++ b.gap isLiteral isBlankNext ++ (← takeSolid fun c => !isLineEnd c)
    if (← peek 0) = endMark then
      pure ({ text, isBroken := false, moreBreaks := 0, wasBlank := isBlankNext }, false)
    else
      skipBreak
      let (moreBreaks, _) ← skipEmptyLines (some indent)
      pure ({ text, isBroken := true, moreBreaks, wasBlank := isBlankNext }, true)

/-- A block text. -/
def scanBlock (isLiteral : Bool) : Scan Unit := do
  let first := (← get).line
  skipSolid
  unindentLoose
  let (chomping, increment) ← scanBlockHeader
  let _ ← skipToLineEnd true
  let c ← peek 0
  failIf !(isLineEnd c)
  if isBreak c then skipBreak
  failIf ((← peek 0) = '\t')
  let outer := (← get).indent
  let (indent, moreBreaks) ←
    if increment = 0 then do
      let (lines, furthest) ← skipEmptyLines none
      let least := if outer > 0 then 1 else 0
      pure (max (max furthest (outer + 1).toNat) least, lines)
    else do
      let indent := if outer ≥ 0 then (outer + increment).toNat else increment
      let (lines, _) ← skipEmptyLines (some indent)
      pure (indent, lines)
  let s ← get
  if (← peek 0) = endMark then
    let text := match chomping with
      | .strip => ""
      | _ => if s.line = first then ""
        else if chomping = .keep ∧ moreBreaks ≠ 0 then breaks moreBreaks
        else "\n"
    emit (.scalar false text)
  else
    failIf (decide (s.column < indent) && decide ((s.column : Int) > s.indent))
    let b ← scanWhile (scanBlockLine isLiteral indent) { moreBreaks }
    let s ← get
    let isCut := (← peek 0) = endMark && decide (max indent 1 ≤ s.column)
    let last := if chomping = .strip then ""
      else (if b.isBroken then "\n" else "") ++ (if isCut then "\n" else "")
    let tail := if chomping = .keep then breaks b.moreBreaks else ""
    emit (.scalar false (b.text ++ last ++ tail))

end JobMonitor.Yaml
