import JobMonitor.Yaml.Tag

set_option autoImplicit false

/-! # Scanning a YAML text into tokens -/

namespace JobMonitor.Yaml

/-! ## Between tokens -/

/-- Goes over blanks, comments and line breaks. A tab cannot indent a block. -/
def skipToToken : Scan Unit :=
  scanWhile (fun () => do
    let c ← peek 0
    let s ← get
    if c = '\t' ∧ ¬ s.indents.isEmpty ∧ s.atLineStart ∧ s.column < s.indent then
      let _ ← skipToLineEnd true
      failIf !(isLineEnd (← peek 0))
      pure ((), true)
    else if isBlank c then
      skipChar
      pure ((), true)
    else if isBreak c then
      skipBreak
      if s.depth = 0 then allowKey true
      pure ((), true)
    else if c = '#' then
      skipComment
      pure ((), true)
    else pure ((), false)) ()

/-- Goes over blanks, comments and line breaks, of which there has to be one. -/
def skipSeparation : Scan Unit := do
  let found ← scanWhile (fun found => do
    let c ← peek 0
    if c = ' ' then
      skipChar
      pure (true, true)
    else if isBreak c then
      skipBreak
      if (← get).depth = 0 then allowKey true
      pure (true, true)
    else if c = '#' then
      skipComment
      pure (found, true)
    else pure (found, false)) false
  failIf !found

/-! ## Documents -/

/-- The marker at the start or the end of a document. -/
def scanMarker (t : Token) : Scan Unit := do
  unindent (-1)
  dropKey
  allowKey false
  skipSolid
  skipSolid
  skipSolid
  emit t
  if t = .documentEnd then
    let _ ← skipToLineEnd true
    failIf !(isLineEnd (← peek 0))

/-- The end of the text. -/
def scanEnd : Scan Unit := do
  let s ← get
  failIf (s.keys.any fun k => k.isPossible && k.isRequired)
  let close (k : PendingKey) : PendingKey := { k with isPossible := false }
  set { s with keys := s.keys.map close }
  unindent (-1)
  emit .streamEnd

/-! ## Flow collections -/

/-- How many flow collections can be open at a time. -/
def maxDepth : Nat := 255

/-- Ends the mapping of one pair that a colon has begun. -/
def endPair : Scan Unit := do
  if (← get).isPairOpen then
    modify fun s => { s with isPairOpen := false, hasMapping := false }
    emit .flowMappingEnd

/-- The bracket at the start of a flow collection. -/
def scanFlowStart (isMapping : Bool) : Scan Unit := do
  saveKey
  indentOne
  failIf ((← get).depth = maxDepth)
  modify fun s => { s with
    depth := s.depth + 1, keys := {} :: s.keys, hasMapping := s.hasMapping || isMapping }
  allowKey true
  skipSolid
  let _ ← skipToLineEnd true
  emit (if isMapping then .flowMappingStart else .flowSequenceStart)

/-- The bracket at the end of a flow collection. -/
def scanFlowEnd (t : Token) : Scan Unit := do
  dropKey
  modify fun s => if s.depth = 0 then s else { s with depth := s.depth - 1, keys := s.keys.tail }
  allowKey false
  endPair
  skipSolid
  let _ ← skipToLineEnd true
  modify fun s => if s.depth = 0 then s else { s with adjacentAt := some s.index }
  emit t

/-- The comma in a flow collection. -/
def scanFlowEntry : Scan Unit := do
  dropKey
  allowKey true
  endPair
  skipSolid
  let _ ← skipToLineEnd true
  emit .flowEntry

/-! ## Entries, keys and values -/

/-- The dash before an entry of a block sequence. -/
def scanBlockEntry : Scan Unit := do
  failIf (← inFlow)
  let s ← get
  failIf !s.allowsKey
  skipSolid
  indentBlock s.column s.count .blockSequenceStart
  let skipped ← skipToLineEnd true
  failIf (skipped.hasTabs && (← peek 0) = '-' && isWordEnd (← peek 1))
  let c ← peek 0
  if isBreak c ∨ isFlowChar c then indentOne
  dropKey
  allowKey true
  emit .blockEntry

/-- The question mark before a key. -/
def scanExplicitKey : Scan Unit := do
  let s ← get
  let isInFlow := decide (0 < s.depth)
  if isInFlow then modify fun s => { s with hasMapping := true }
  else
    failIf !s.allowsKey
    indentBlock s.column s.count .blockMappingStart
  dropKey
  allowKey !isInFlow
  skipSolid
  skipSeparation
  failIf ((← peek 0) = '\t')
  emit .key

/-- The colon between a key and its value. The key comes before it, has been announced by a
    question mark, or is missing. In a flow collection where no mapping has begun it begins one of
    a single pair. -/
def scanValue : Scan Unit := do
  let key ← pendingKey
  let s ← get
  let isPair := decide (0 < s.depth) && !s.hasMapping
  modify fun s => { s with isPairOpen := isPair }
  skipSolid
  if (← peek 0) = '\t' then
    let skipped ← skipToLineEnd true
    let c ← peek 0
    failIf (!skipped.hasSpaces && (c = '-' || c.isAlphanum || c = '_'))
  if key.isPossible then
    emitAt key.token .key
    if isPair then
      failIf (decide (key.line < s.line))
      emitAt key.token .flowMappingStart
    indentBlock key.column key.token .blockMappingStart
    indentOne
    setPendingKey { key with isPossible := false }
    allowKey false
  else
    if isPair then emit .flowMappingStart
    if s.depth = 0 then
      failIf !s.allowsKey
      indentBlock s.column s.count .blockMappingStart
    indentOne
    allowKey (s.depth = 0)
  emit .value

/-! ## Names -/

/-- The name behind an ampersand or an asterisk. -/
def scanName (token : String → Token) : Scan Unit := do
  saveKey
  allowKey false
  skipSolid
  let name ← takeSolid fun c => !isWordEnd c && !isFlowChar c && c ≠ '\uFEFF'
  failIf name.isEmpty
  emit (token name)

/-! ## The next token -/

/-- A plain text begins with this character, of which the next one is known. -/
def startsPlain (isInFlow : Bool) (c next : Char) : Bool :=
  if c = '%' || c = '@' || c.toNat = 0x60 then false
  else if c = '?' || c = ':' then !isInFlow || !isWordEnd next
  else if c = '|' || c = '>' then isInFlow
  else true

/-- Scans the text that begins here. -/
def scanText (c next : Char) : Scan Unit := do
  let isInFlow ← inFlow
  saveKey
  if (c = '|' ∨ c = '>') ∧ ¬ isInFlow then
    allowKey true
    scanBlock (c = '|')
  else
    allowKey false
    if c = '"' ∨ c = '\'' then
      scanQuoted (c = '\'')
      skipToToken
      modify fun s => { s with adjacentAt := some s.index }
    else
      failIf !(startsPlain isInFlow c next)
      scanPlain

/-- Scans the tokens that begin here. Gives whether there are more. -/
def scanToken : Scan Bool := do
  skipToToken
  dropStaleKeys
  unindent (← get).column
  let s ← get
  let isInFlow := decide (0 < s.depth)
  let c ← peek 0
  let next ← peek 1
  if c = endMark then
    scanEnd
    return false
  if s.column = 0 ∧ c = '%' then scanDirective
  else if ← isMarker '-' then scanMarker .documentStart
  else if ← isMarker '.' then scanMarker .documentEnd
  else
    failIf (decide ((s.column : Int) < s.indent))
    if c = '[' then scanFlowStart false
    else if c = '{' then scanFlowStart true
    else if c = ']' then scanFlowEnd .flowSequenceEnd
    else if c = '}' then scanFlowEnd .flowMappingEnd
    else if c = ',' then scanFlowEntry
    else if c = '-' ∧ isWordEnd next then scanBlockEntry
    else if c = '?' ∧ isWordEnd next then scanExplicitKey
    else if c = ':' ∧ (isWordEnd next ∨
        (isInFlow ∧ (isFlowChar next ∨ s.adjacentAt = some s.index))) then scanValue
    else if c = '*' then scanName .reference
    else if c = '&' then scanName .anchor
    else if c = '!' then scanTag
    else scanText c next
  return true

/-- The tokens of a text that ends where a character 0 stands. Each token but the last goes over
    a character. -/
def tokens? (text : List Char) : Option (List Token) :=
  let rest := text.takeWhile (· ≠ endMark)
  let scan := repeatStep (fun () => do return ((), ← scanToken)) (rest.length + 1) ()
  (scan.run { rest, size := rest.length }).map fun (_, s) => s.tokens.reverse

end JobMonitor.Yaml
