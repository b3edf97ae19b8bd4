import JobMonitor.Yaml.Scalar

set_option autoImplicit false

/-! # Scanning the tags and the directives of a YAML text

A tag is a handle and a suffix: `!local`, `!!secondary`, `!named!suffix`, or a verbatim one between
angle brackets, which has no handle. A directive gives the version of the language or says what a
handle stands for. -/

namespace JobMonitor.Yaml

/-! ## Characters -/

/-- A character of a directive's name or of a handle. -/
def isNameChar (c : Char) : Bool := c.isAlphanum || c = '_' || c = '-'

/-- A character of a verbatim tag. -/
def isUriChar (c : Char) : Bool := c.isAlphanum || "-#;/?:@&=+$,_.!~*'()[]%".toList.contains c

/-- A character of a tag's suffix. -/
def isTagChar (c : Char) : Bool := isUriChar c && !isFlowChar c && c ≠ '!'

/-- The value of a percent sign and two hexadecimal digits. -/
def scanEscapedByte : Scan Nat := do
  failIf ((← peek 0) ≠ '%')
  match hexValue? (← peek 1), hexValue? (← peek 2) with
  | some high, some low =>
    skipSolid
    skipSolid
    skipSolid
    pure (16 * high + low)
  | _, _ => fail

/-- How many bytes a character has whose first byte is this one. -/
def widthOf? (byte : Nat) : Option Nat :=
  if byte < 0x80 then some 1
  else if byte < 0xC0 then none
  else if byte < 0xE0 then some 2
  else if byte < 0xF0 then some 3
  else if byte < 0xF8 then some 4
  else none

/-- Adds so many bytes behind the first one to a code. -/
def scanMoreBytes : (width : Nat) → (code : Nat) → Scan Nat
  | 0, code => pure code
  | width + 1, code => do
    let byte ← scanEscapedByte
    failIf (decide (byte < 0x80) || decide (0xC0 ≤ byte))
    scanMoreBytes width (256 * code + byte)

/-- A character that is written as escaped bytes. Its code is the number that the bytes make up as
    they stand, so most characters beyond ASCII cannot be written. -/
def scanEscapedChar : Scan Char := do
  let first ← scanEscapedByte
  match widthOf? first with
  | none => fail
  | some width =>
    let code ← scanMoreBytes (width - 1) first
    if code.isValidChar then pure (Char.ofNat code) else fail

/-- The characters of a class, some of which may be escaped. -/
def takeEscaped (belongs : Char → Bool) (start : String) : Scan String :=
  scanWhile (fun text => do
    let c ← peek 0
    if ¬ belongs c then pure (text, false)
    else if c = '%' then pure (text.push (← scanEscapedChar), true)
    else
      skipSolid
      pure (text.push c, true)) start

/-! ## Tags -/

/-- Exclamation marks and the name between them. The second mark may be missing. -/
def scanHandle : Scan String := do
  failIf ((← peek 0) ≠ '!')
  skipSolid
  let name ← takeSolid isNameChar
  if (← peek 0) = '!' then
    skipSolid
    pure ("!" ++ name ++ "!")
  else pure ("!" ++ name)

/-- The handle is one between two exclamation marks. -/
def isClosedHandle (handle : String) : Bool := decide (2 ≤ handle.length) && handle.endsWith "!"

/-- A tag behind an angle bracket. -/
def scanVerbatim : Scan Token := do
  skipSolid
  skipSolid
  let name ← takeEscaped isUriChar ""
  failIf ((← peek 0) ≠ '>')
  skipSolid
  pure (.tag "" name)

/-- A tag that is a handle and a suffix. A lone exclamation mark is a suffix without a handle. -/
def scanShorthand : Scan Token := do
  let handle ← scanHandle
  if isClosedHandle handle then
    let suffix ← takeEscaped isTagChar ""
    failIf suffix.isEmpty
    pure (.tag handle suffix)
  else
    let suffix ← takeEscaped isTagChar (String.ofList handle.toList.tail)
    pure (if suffix.isEmpty then .tag "" "!" else .tag "!" suffix)

/-- A tag. -/
def scanTag : Scan Unit := do
  saveKey
  allowKey false
  let tag ← if (← peek 1) = '<' then scanVerbatim else scanShorthand
  let next ← peek 0
  failIf !(isWordEnd next || (isFlowChar next && (← inFlow)))
  emit tag

/-! ## Directives -/

/-- Goes over the blanks that begin here. -/
def skipBlanks : Scan Unit :=
  scanWhile (fun () => do
    if isBlank (← peek 0) then
      skipChar
      pure ((), true)
    else pure ((), false)) ()

/-- One of the two numbers of a version. It has at most nine digits. -/
def scanVersionNumber : Scan Unit := do
  let digits ← takeSolid Char.isDigit
  failIf (digits.isEmpty || decide (9 < digits.length))

/-- A version of the language. -/
def scanVersion : Scan Token := do
  skipBlanks
  scanVersionNumber
  failIf ((← peek 0) ≠ '.')
  skipSolid
  scanVersionNumber
  pure .versionDirective

/-- What a handle stands for: an exclamation mark or the start of a tag, and more of a tag. -/
def scanMeaning : Scan String := do
  let c ← peek 0
  if c = '!' then
    skipSolid
    takeEscaped isUriChar "!"
  else
    failIf !(isTagChar c)
    takeEscaped isUriChar ""

/-- A handle and what it stands for. -/
def scanDeclaration : Scan Token := do
  skipBlanks
  let handle ← scanHandle
  failIf !(handle = "!" || isClosedHandle handle)
  skipBlanks
  let meaning ← scanMeaning
  failIf !(isWordEnd (← peek 0))
  pure (.tagDirective handle meaning)

/-- A line that says something about the document. -/
def scanDirective : Scan Unit := do
  unindent (-1)
  dropKey
  allowKey false
  skipSolid
  let name ← takeSolid isNameChar
  failIf (name.isEmpty || !isWordEnd (← peek 0))
  let directive ←
    if name = "YAML" then scanVersion
    else if name = "TAG" then scanDeclaration
    else do
      skipComment
      pure (.tagDirective "" "")
  let _ ← skipToLineEnd true
  failIf !(isLineEnd (← peek 0))
  if isBreak (← peek 0) then skipBreak
  emit directive

end JobMonitor.Yaml
