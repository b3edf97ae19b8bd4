import JobMonitor.Shell.Arithmetic
import JobMonitor.Shell.Interpreter

set_option autoImplicit false

/-! # What words stand for

The pieces of a word are replaced by the texts that they stand for. Words within words and scripts
within words are left to the interpreter that is given. -/

namespace JobMonitor.Shell

/-- The text without the line breaks at its end. -/
def withoutLastBreaks (text : String) : String :=
  String.ofList (text.toList.reverse.dropWhile (· = '\n')).reverse

/-- What a script prints. -/
def Interpreter.capture (i : Interpreter) (script : Command) : Act String := do
  let buffer ← newBuffer ""
  let status ← awaited (← i.subshell (fun s =>
    { s with streams := (1, .buffer buffer) :: s.streams }) (i.run false script))
  modifyShell ({ · with outputStatus := some status })
  return withoutLastBreaks ((← get).buffers.getD buffer "")

/-- The value that a reference stands for. Where values are demanded there has to be one. -/
def demandValue (name : String) : Act (Option String) := do
  let shell ← theShell
  match shell.value? name with
  | some value => return some value
  | none =>
    if shell.has 'u' ∧ name ≠ "@" ∧ name ≠ "*" then fault (name ++ ": parameter not set")
    else return none

/-- What a reference stands for. -/
def referenceGlyphs (name : String) (isQuoted : Bool) : Act (List Glyph) := do
  let shell ← theShell
  if name = "@" ∨ (name = "*" ∧ ¬ isQuoted) then return listGlyphs shell.arguments isQuoted
  else if name = "*" then
    let separator := match shell.assigned? "IFS" with
      | none => " "
      | some ifs => (ifs.toList.head?.map Char.toString).getD ""
    return valueGlyphs (separator.intercalate shell.arguments) true
  else return valueGlyphs ((← demandValue name).getD "") isQuoted

/-- A character of a word in a reference may be cut like one of a value. -/
def Glyph.loosen : Glyph → Glyph
  | .plain c => .loose c
  | glyph => glyph

/-- The name can be assigned to. -/
def isVariableName (name : String) : Bool :=
  name.toList.head?.any (fun c => c.isAlpha || c = '_')
    && name.toList.all fun c => c.isAlphanum || c = '_'

/-- What a reference with a word stands for. -/
def Interpreter.adjustedGlyphs (i : Interpreter) (name : String) (adjustment : Adjustment)
    (countsEmpty : Bool) (word : Word) (isQuoted : Bool) : Act (List Glyph) := do
  let value := (← theShell).value? name
  let isMissing : Bool := match value with
    | none => true
    | some value => countsEmpty && value.isEmpty
  let marked (glyphs : List Glyph) : List Glyph :=
    if isQuoted then .quotes :: glyphs else glyphs.map Glyph.loosen
  match adjustment with
  | .orElse => if isMissing then return marked (← i.expand word) else referenceGlyphs name isQuoted
  | .instead => if isMissing then return marked [] else return marked (← i.expand word)
  | .assign =>
    if ¬ isMissing then referenceGlyphs name isQuoted
    else if ¬ isVariableName name then fault (name ++ ": bad variable name")
    else
      assign name (glyphText (← i.expand word))
      referenceGlyphs name isQuoted
  | .demand =>
    if ¬ isMissing then referenceGlyphs name isQuoted
    else
      let message := glyphText (← i.expand word)
      fault (name ++ ": " ++ if message.isEmpty then "parameter not set" else message)
  | .cut atEnd isLong =>
    let value := (← demandValue name).getD ""
    let pattern := glyphPattern (← i.expand word)
    return valueGlyphs (String.ofList (cutMatch atEnd isLong pattern value.toList)) isQuoted

/-- The value of an expression. -/
def calculateText (text : String) : Act Int := do
  let shell ← theShell
  match calculate shell.value? text with
  | none => fault ("arithmetic expression: expecting primary: \"" ++ text ++ "\"")
  | some (n, assigned) =>
    assigned.reverse.forM fun (name, value) => assign name (signedDecimal value)
    return n

/-- What a piece of a word stands for. -/
def Interpreter.pieceGlyphs (i : Interpreter) : Piece → Act (List Glyph)
  | .text content isQuoted => return textGlyphs content isQuoted
  | .reference name isQuoted => referenceGlyphs name isQuoted
  | .adjusted name adjustment countsEmpty word isQuoted =>
    i.adjustedGlyphs name adjustment countsEmpty word isQuoted
  | .length name => do
    return (decimal ((← demandValue name).getD "").utf8ByteSize).toList.map .loose
  | .arithmetic expression isQuoted => do
    let text := glyphText (← i.expand expression)
    return valueGlyphs (signedDecimal (← calculateText text)) isQuoted
  | .output script isQuoted => return valueGlyphs (← i.capture script) isQuoted
  | .broken => fault "Bad substitution"

/-- What a word stands for. -/
def Interpreter.wordGlyphs (i : Interpreter) (word : Word) : Act (List Glyph) := do
  return (← word.mapM i.pieceGlyphs).flatten

/-- The home directory may be written as a tilde at the front of a word. -/
def withHome (word : Word) : Act Word := do
  match word, (← theShell).assigned? "HOME" with
  | .text content false :: rest, some home =>
    if content = "~" ∨ content.startsWith "~/" then
      return .text home true :: .text (content.drop 1).toString false :: rest
    else return word
  | _, _ => return word

/-- The fields that words stand for. -/
def Interpreter.fields (i : Interpreter) (words : List Word) : Act (List String) := do
  let fields ← words.mapM fun word => do
    let glyphs ← i.wordGlyphs (← withHome word)
    let s ← get
    let fields := cutFields s.shell.separators glyphs
    return if s.shell.has 'f' then fields.map glyphText else fields.flatMap (fieldPaths s.files)
  return fields.flatten

/-- The text that a word stands for where it is not cut. -/
def Interpreter.text (i : Interpreter) (word : Word) : Act String := do
  return glyphText (← i.wordGlyphs (← withHome word))

end JobMonitor.Shell
