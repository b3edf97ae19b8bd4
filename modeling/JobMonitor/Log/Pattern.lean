import JobMonitor.Number.FloatText
import JobMonitor.Text.Alphanumeric
import JobMonitor.Text.Blank

set_option autoImplicit false

/-! # Patterns in log filters

The value that a filter compares a field with may be a regular expression. Here it is only said
which texts are one. Braces never close, since a value ends before the first closing brace, so
nothing can be repeated a given number of times. There are no tables of character classes: what
needs one is no pattern, and neither is what matches bytes that are not UTF-8. -/

namespace JobMonitor.Pattern

/-! ## Options and steps -/

/-- The options that hold at a place of a pattern. -/
structure Options where
  /-- Letters of either case match. -/
  ignoresCase : Bool := false
  /-- Characters match and not bytes. -/
  isUnicode : Bool := true
  /-- Blanks and comments in the pattern say nothing. -/
  isSpaced : Bool := false

/-- What is left of a pattern, the options that hold there, and the names of the groups before. -/
structure Reader where
  rest : List Char
  options : Options := {}
  names : List String := []

/-- A step of the reading, which takes characters from the front or refuses the pattern. -/
abbrev Reading := StateT Reader Option

/-- The text is no pattern. -/
def refuse {α : Type} : Reading α := StateT.lift none

/-- The text is no pattern unless the condition holds. -/
def require (condition : Bool) : Reading Unit := if condition then pure () else refuse

/-- What a part of the text stands for. -/
def demand {α : Type} : Option α → Reading α := StateT.lift

/-- The options that hold here. -/
def options : Reading Options := return (← get).options

/-- The next character. -/
def next : Reading (Option Char) := return (← get).rest.head?

/-- Takes the next character, which has to be there. -/
def take : Reading Char := do
  let c ← demand (← next)
  modify fun r => { r with rest := r.rest.tail }
  return c

/-- Takes a word if it comes next. -/
def takeIf (word : String) : Reading Bool := do
  if word.toList.isPrefixOf (← get).rest then
    modify fun r => { r with rest := r.rest.drop word.length }
    return true
  else return false

/-- What is left behind blanks and comments. A comment ends with its line. -/
def dropBlanks (inComment : Bool) : List Char → List Char
  | [] => []
  | c :: rest =>
    if inComment then dropBlanks (c ≠ '\n') rest
    else if isBlankChar c then dropBlanks false rest
    else if c = '#' then dropBlanks true rest
    else c :: rest

/-- Takes blanks and comments if they say nothing. -/
def skipBlanks : Reading Unit := modify fun r =>
  if r.options.isSpaced then { r with rest := dropBlanks false r.rest } else r

/-! ## Signs -/

/-- What a sign of a pattern matches. -/
inductive Sign where
  /-- A character, which may be given by two hexadecimal digits. -/
  | char (c : Char) (isByte : Bool)
  /-- A digit, a blank or a character of a word, or none of them. -/
  | kind (isNegated : Bool)
  /-- Any character. -/
  | any
  /-- The start or the end of a line or a text. -/
  | edge
  /-- The start or the end of a word. -/
  | boundary

/-- A sign can stand outside of a set. -/
def Sign.isAllowed (options : Options) : Sign → Bool
  | .char c isByte =>
    if options.isUnicode then !options.ignoresCase else !isByte || decide (c.toNat < 0x80)
  | .kind isNegated => !options.isUnicode && !isNegated
  | .any => options.isUnicode
  | .edge => true
  | .boundary => !options.isUnicode

/-- A sign can stand in a set. -/
def Sign.isMember (options : Options) : Sign → Bool
  | .char c _ => if options.isUnicode then !options.ignoresCase else decide (c.toNat < 0x80)
  | .kind isNegated => !options.isUnicode && !isNegated
  | _ => false

/-- The code that so many hexadecimal digits add to. -/
def readDigits : (count : Nat) → (code : Nat) → Reading Nat
  | 0, code => pure code
  | count + 1, code => do
    skipBlanks
    let digit ← demand (baseDigit? 16 (← take))
    readDigits count (16 * code + digit)

/-- The character with a code of so many hexadecimal digits. -/
def readCode (count : Nat) : Reading Char := do
  let code ← readDigits count 0
  require code.isValidChar
  return Char.ofNat code

/-- The sign that stands behind a backslash. Any ASCII character that is no letter or digit can
    stand for itself. -/
def readEscape : Reading Sign := do
  let c ← take
  if c = 'x' then return .char (← readCode 2) true
  else if c = 'u' then return .char (← readCode 4) false
  else if c = 'U' then return .char (← readCode 8) false
  else if "dsw".toList.contains c then return .kind false
  else if "DSW".toList.contains c then return .kind true
  else if "Az".toList.contains c then return .edge
  else if "bB<>".toList.contains c then return .boundary
  else
    require ("aftnrv".toList.contains c || (decide (c.toNat < 0x80) && !c.isAlphanum))
    return .char c false

/-! ## Sets -/

/-- The names of the sets that can stand between colons. -/
def namedSets : List String := [
  "alnum", "alpha", "ascii", "blank", "cntrl", "digit", "graph", "lower", "print", "punct", "space",
  "upper", "word", "xdigit"]

/-- A named set behind a bracket. Gives whether it is negated and what is left. -/
def namedSet? : List Char → Option (Bool × List Char)
  | ':' :: text =>
    let isNegated := text.head? = some '^'
    let text := if isNegated then text.tail else text
    let name := text.takeWhile (· ≠ ':')
    match text.dropWhile (· ≠ ':') with
    | ':' :: ']' :: rest =>
      if namedSets.contains (String.ofList name) then some (isNegated, rest) else none
    | _ => none
  | _ => none

/-- A part of a pattern: how deep what is in it is nested, and whether it is a set of bytes that are
    not ASCII. -/
structure Part where
  depth : Nat := 0
  hasHigh : Bool := false

/-- Several parts in one. -/
def Part.join : List Part → Part
  | [] => {}
  | [part] => part
  | parts => ⟨1 + (parts.map Part.depth).foldl max 0, parts.any Part.hasHigh⟩

/-- The operations on sets. -/
inductive SetOperation where
  | intersection
  | difference
  | symmetricDifference

/-- The set that an operation makes. -/
def SetOperation.apply (operation : SetOperation) (left right : Part) : Part where
  depth := 1 + max left.depth right.depth
  hasHigh := match operation with
    | .intersection => left.hasHigh && right.hasHigh
    | .difference => left.hasHigh && !right.hasHigh
    | .symmetricDifference => left.hasHigh != right.hasHigh

/-- Takes the sign of an operation if it comes next. -/
def takeOperation : Reading (Option SetOperation) := do
  if ← takeIf "&&" then return some .intersection
  else if ← takeIf "--" then return some .difference
  else if ← takeIf "~~" then return some .symmetricDifference
  else return none

/-- The set on the left of an operation, with what comes behind it. -/
def combine (left : Option (Part × SetOperation)) (right : Part) : Part :=
  match left with
  | none => right
  | some (left, operation) => operation.apply left right

/-- Reads a member of a set. -/
def readMember : Reading Sign := do
  let sign ← if ← takeIf "\\" then readEscape else return .char (← take) false
  require (sign.isMember (← options))
  return sign

/-- A hyphen between two members comes next, and not one that stands for itself. -/
def isRange : Reading Bool := do
  let r ← get
  let behind := r.rest.tail
  let behind :=
    if r.options.isSpaced then
      match behind.dropWhile isBlankChar with
      | '#' :: rest => rest.dropWhile isBlankChar
      | rest => rest
    else behind
  return r.rest.head? = some '-' && behind.head? ≠ some ']' && behind.head? ≠ some '-'

/-- Reads a member of a set or a range between two of them. -/
def readRange : Reading Unit := do
  let first ← readMember
  require (first.isMember (← options))
  skipBlanks
  if ← isRange then
    let _ ← take
    skipBlanks
    let last ← readMember
    match first, last with
    | .char low _, .char high _ =>
      require (last.isMember (← options))
      require (low ≤ high)
    | _, _ => refuse

/-- Takes the hyphens at the start of a set, which stand for themselves. Gives how many there are. -/
def takeHyphens : (fuel : Nat) → Reading Nat
  | 0 => pure 0
  | fuel + 1 => do
    skipBlanks
    if ← takeIf "-" then return 1 + (← takeHyphens fuel) else return 0

/-- A set of bytes holds nothing but ASCII. -/
def closeSet (isNegated : Bool) (part : Part) : Reading Part := do
  require ((← options).isUnicode || part.hasHigh == isNegated)
  return ⟨1 + part.depth, false⟩

mutual

/-- Reads a set whose bracket has been taken. A closing bracket at its start stands for itself. -/
def readSet : (fuel : Nat) → Reading Part
  | 0 => refuse
  | fuel + 1 => do
    skipBlanks
    let isNegated ← takeIf "^"
    let hyphens ← takeHyphens fuel
    let isBracket ← if hyphens = 0 then takeIf "]" else pure false
    let literals := hyphens + if isBracket then 1 else 0
    require (literals = 0 || (Sign.char '-' false).isMember (← options))
    closeSet isNegated (← readMembers none (List.replicate literals {}) fuel)

/-- Reads the members of a set to its end. -/
def readMembers (left : Option (Part × SetOperation)) (parts : List Part) : (fuel : Nat) →
    Reading Part
  | 0 => refuse
  | fuel + 1 => do
    skipBlanks
    if ← takeIf "]" then return combine left (.join parts)
    else if let some operation := ← takeOperation then
      readMembers (some (combine left (.join parts), operation)) [] fuel
    else if ← takeIf "[" then
      match namedSet? (← get).rest with
      | some (isNegated, rest) =>
        modify fun r => { r with rest }
        let o ← options
        require (!(o.isUnicode && o.ignoresCase))
        readMembers left (parts ++ [⟨0, isNegated⟩]) fuel
      | none =>
        let part ← readSet fuel
        readMembers left (parts ++ [part]) fuel
    else
      readRange
      readMembers left (parts ++ [{}]) fuel

end

/-! ## Groups -/

/-- The letters of options, of which those behind a hyphen are turned off, and what is left. None
    comes twice. -/
def optionLetters? (seen : List Char) : List Char → Option (List Char × List Char)
  | [] => none
  | c :: rest =>
    if c = ':' ∨ c = ')' then
      if seen.getLast? = some '-' then none else some (seen, c :: rest)
    else if seen.contains c ∨ ¬ "imsuURx-".toList.contains c then none
    else optionLetters? (seen ++ [c]) rest

/-- The options with some of them changed. -/
def Options.change (options : Options) (letters : List Char) : Options :=
  let on := letters.takeWhile (· ≠ '-')
  let isSet (letter : Char) (old : Bool) : Bool :=
    if on.contains letter then true else if letters.contains letter then false else old
  { ignoresCase := isSet 'i' options.ignoresCase
    isUnicode := isSet 'u' options.isUnicode
    isSpaced := isSet 'x' options.isSpaced }

/-- A name of a group. -/
def isGroupName : List Char → Bool
  | [] => false
  | c :: rest =>
    (c = '_' || isLetter c) &&
      rest.all fun c => c = '_' || c = '.' || c = '[' || c = ']' || isAlphanumeric c

/-- Reads the name of a group up to its bracket. No group has the name of another. -/
def readGroupName : Reading Unit := do
  let name := (← get).rest.takeWhile (· ≠ '>')
  modify fun r => { r with rest := r.rest.drop name.length }
  require ((← takeIf ">") && isGroupName name)
  let name := String.ofList name
  require !((← get).names.contains name)
  modify fun r => { r with names := name :: r.names }

/-- How a group begins. -/
inductive GroupStart where
  /-- Options that hold for what follows, and no group at all. -/
  | options
  | group

/-- Reads the start of a group behind its parenthesis. There is no looking ahead or behind. -/
def readGroupStart : Reading GroupStart := do
  skipBlanks
  for word in ["?=", "?!", "?<=", "?<!"] do
    require !(← takeIf word)
  if ← takeIf "?P<" then
    readGroupName
    return .group
  else if ← takeIf "?<" then
    readGroupName
    return .group
  else if ← takeIf "?" then
    let (letters, rest) ← demand (optionLetters? [] (← get).rest)
    modify fun r => { r with rest, options := r.options.change letters }
    if ← takeIf ":" then return .group
    else
      let _ ← take
      require !letters.isEmpty
      return .options
  else return .group

/-- Something in a sequence and whether it can be repeated. -/
structure Item where
  part : Part
  isRepeatable : Bool := true

mutual

/-- Reads alternatives up to a closing parenthesis or the end. -/
def readAlternatives (parts : List Part) : (fuel : Nat) → Reading Part
  | 0 => refuse
  | fuel + 1 => do
    let parts := parts ++ [.join ((← readSequence [] fuel).map Item.part)]
    if ← takeIf "|" then readAlternatives parts fuel else return .join parts

/-- Reads what follows one another, the last item first. -/
def readSequence (items : List Item) : (fuel : Nat) → Reading (List Item)
  | 0 => refuse
  | fuel + 1 => do
    skipBlanks
    match ← next with
    | none => return items
    | some c =>
      if c = ')' ∨ c = '|' then return items
      else if c = '?' ∨ c = '*' ∨ c = '+' then
        let _ ← take
        let _ ← takeIf "?"
        match items with
        | item :: items =>
          require item.isRepeatable
          readSequence (⟨⟨1 + item.part.depth, false⟩, true⟩ :: items) fuel
        | [] => refuse
      else readSequence ((← readItem fuel) :: items) fuel

/-- Reads a group, a set or a sign. -/
def readItem : (fuel : Nat) → Reading Item
  | 0 => refuse
  | fuel + 1 => do
    let outer ← options
    if ← takeIf "(" then
      match ← readGroupStart with
      | .options => return { part := {}, isRepeatable := false }
      | .group =>
        let part ← readAlternatives [] fuel
        require (← takeIf ")")
        modify fun r => { r with options := outer }
        return { part := ⟨1 + part.depth, false⟩ }
    else if ← takeIf "[" then return { part := ← readSet fuel }
    else
      let c ← take
      require (c.toNat ≠ 0x7B)
      let sign ←
        if c = '\\' then readEscape
        else if c = '.' then pure .any
        else if c = '^' ∨ c = '$' then pure .edge
        else pure (.char c false)
      require (sign.isAllowed outer)
      return { part := {} }

end

/-- How deep a pattern can be nested. -/
def maxDepth : Nat := 250

/-- Reads a whole pattern. -/
def readAll : Reading Unit := do
  let part ← readAlternatives [] (3 * (← get).rest.length + 3)
  require ((← get).rest.isEmpty && decide (part.depth ≤ maxDepth))

/-- The text is a pattern. -/
def isPattern (text : List Char) : Bool := (readAll.run { rest := text }).isSome

/-- The text is a number or a pattern. -/
def isFieldValue (text : List Char) : Bool := (binary64Of? text).isSome || isPattern text

end JobMonitor.Pattern
