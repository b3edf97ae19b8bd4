import JobMonitor.Number.FloatText
import JobMonitor.Yaml.Tokens

set_option autoImplicit false

/-! # Values of a YAML text

The tokens of a text are read by recursive descent. Every step takes a token, so the number of
tokens bounds how deep the descent can get. A value that is missing where one may be missing is
null. -/

namespace JobMonitor.Yaml

/-! ## Single values -/

/-- A value that is not a collection. -/
inductive Scalar where
  | null
  | boolean (value : Bool)
  | integer (value : Int)
  /-- A number with a point, as it is written. -/
  | real (text : String)
  | text (text : String)
  /-- Not what its tag says it is. -/
  | mistagged
deriving DecidableEq, Inhabited, Repr

/-- The words for what is not a finite number. -/
def specialReals : List String := [
  ".inf", ".Inf", ".INF", "+.inf", "+.Inf", "+.INF", "-.inf", "-.Inf", "-.INF", ".nan", ".NaN", ".NAN"]

/-- A text that is a number with a point. A word without a digit is not. -/
def isReal (text : String) : Bool :=
  specialReals.contains text ||
    (text.toList.any isDigitChar && (binary64Of? text.toList).isSome)

/-- An integer in a notation that shows its base, or with a plus sign. -/
def markedInteger? : List Char → Option Int
  | '0' :: 'x' :: digits => int64InBase? 16 digits
  | '0' :: 'o' :: digits => int64InBase? 8 digits
  | '+' :: digits => int64Of? digits
  | _ => none

/-- A truth value, whose word may begin with a capital letter or consist of them. -/
def booleanOf? (text : String) : Option Bool :=
  if ["true", "True", "TRUE"].contains text then some true
  else if ["false", "False", "FALSE"].contains text then some false
  else none

/-- What a plain text stands for. -/
def Scalar.ofPlain (text : String) : Scalar :=
  match markedInteger? text.toList with
  | some n => .integer n
  | none =>
    if text = "" ∨ text = "~" ∨ text = "null" then .null
    else if let some b := booleanOf? text then .boolean b
    else match int64Of? text.toList with
      | some n => .integer n
      | none => if isReal text then .real text else .text text

/-- Where the tags of the language's own types begin. -/
def coreTags : String := "tag:yaml.org,2002:"

/-- What a plain text with a tag stands for, of which the start and the suffix are given. -/
def Scalar.ofTagged (start suffix text : String) : Scalar :=
  if start ≠ coreTags then .text text
  else if suffix = "bool" then ((booleanOf? text).map Scalar.boolean).getD .mistagged
  else if suffix = "int" then ((int64Of? text.toList).map Scalar.integer).getD .mistagged
  else if suffix = "float" then if isReal text then .real text else .mistagged
  else if suffix = "null" then if text = "~" ∨ text = "null" then .null else .mistagged
  else .text text

/-! ## Collections -/

/-- A value. The keys of a mapping are single values. -/
inductive Node where
  | scalar (value : Scalar)
  | sequence (items : List Node)
  | mapping (members : List (Scalar × Node))
deriving Inhabited

/-- A value that is missing. -/
def Node.missing : Node := .scalar .null

/-- Makes a mapping of keys and values that take turns, behind the members so far, the latest of which
    comes first. No key comes twice. One that is not what its tag says it is does not count. -/
def pairUp (members : List (Scalar × Node)) : List Node → Option (List (Scalar × Node))
  | [] => some members.reverse
  | .scalar .mistagged :: rest => pairUp members rest
  | [_] => some members.reverse
  | .scalar key :: value :: rest =>
    if members.any (·.1 == key) then none else pairUp ((key, value) :: members) rest
  | _ => none

/-! ## Reading tokens -/

/-- What is left to read and what has been given a name. -/
structure Descent where
  rest : List Token
  /-- What the handle of a tag stands for, as the document's directives say. -/
  handles : List (String × String) := []
  /-- The number of the value that each name stands for, the latest first. -/
  names : List (String × Nat) := []
  /-- The values that have a name and have been read to their end. -/
  named : List (Nat × Node) := []

/-- A step of the reading. -/
abbrev Reading := StateT Descent Option

/-- There is no value here. -/
def refuse {α : Type} : Reading α := StateT.lift none

/-- The next token. -/
def nextToken : Reading Token := return (← get).rest.headD .streamEnd

/-- Goes over a token. -/
def dropToken : Reading Unit := modify fun s => { s with rest := s.rest.tail }

/-- Goes over a token if it is the next one. -/
def dropIf (t : Token) : Reading Bool := do
  if (← nextToken) = t then
    dropToken
    return true
  else return false

/-- Goes over the comma before an item that is not the first one. -/
def dropSeparator (isFirst : Bool) : Reading Bool := if isFirst then pure true else dropIf .flowEntry

/-- The value that a name stands for. Inside of itself it stands for nothing. -/
def referTo (name : String) : Reading Node := do
  let s ← get
  match s.names.lookup name with
  | none => refuse
  | some number => return (s.named.lookup number).getD (.scalar .mistagged)

/-- What stands before a value: its tag and the number of its name. -/
structure Properties where
  /-- What the tag's handle stands for, and its suffix. -/
  tag : Option (String × String) := none
  number : Option Nat := none

/-- Gives a name to the value that follows. -/
def nameNext (name : String) : Reading Nat :=
  modifyGet fun s => (s.names.length, { s with names := (name, s.names.length) :: s.names })

/-- A tag with what its handle stands for. A named handle that has not been declared is refused. -/
def resolvedTag (handle suffix : String) : Reading (String × String) := do
  match (← get).handles.lookup handle with
  | some start => return (start, suffix)
  | none =>
    if handle = "!!" then return (coreTags, suffix)
    else if isClosedHandle handle then refuse
    else return (handle, suffix)

/-- Reads a name and a tag in either order. -/
def readProperties : Reading Properties := do
  match ← nextToken with
  | .anchor name =>
    dropToken
    let number ← nameNext name
    match ← nextToken with
    | .tag handle suffix =>
      dropToken
      return { tag := some (← resolvedTag handle suffix), number := some number }
    | _ => return { number := some number }
  | .tag handle suffix =>
    dropToken
    let tag ← resolvedTag handle suffix
    match ← nextToken with
    | .anchor name =>
      dropToken
      return { tag := some tag, number := some (← nameNext name) }
    | _ => return { tag := some tag }
  | _ => return {}

/-- What a text stands for. -/
def Properties.resolve (p : Properties) (isPlain : Bool) (text : String) : Node :=
  .scalar <|
    if isPlain then
      match p.tag with
      | some (start, suffix) => .ofTagged start suffix text
      | none => .ofPlain text
    else .text text

/-- A mapping of keys and values that take turns. -/
def mappingOf (nodes : List Node) : Reading Node := do
  match pairUp [] nodes with
  | some members => return .mapping members
  | none => refuse

/-- A value may be missing before one of these tokens. -/
def readUnless (ends : List Token) (read : Reading Node) : Reading Node := do
  if ends.contains (← nextToken) then return .missing else read

mutual

/-- Reads a value. Outside of flow collections it may be a block collection. The entries of a
    sequence that is the value of a key need not be indented. -/
def readNode (isBlock isIndentless : Bool) : (fuel : Nat) → Reading Node
  | 0 => refuse
  | fuel + 1 => do
    match ← nextToken with
    | .reference name =>
      dropToken
      referTo name
    | _ =>
      let p ← readProperties
      let node ← readContent isBlock isIndentless p fuel
      if let some number := p.number then
        modify fun s => { s with named := (number, node) :: s.named }
      return node

/-- Reads what stands behind the name and the tag of a value. -/
def readContent (isBlock isIndentless : Bool) (p : Properties) : (fuel : Nat) → Reading Node
  | 0 => refuse
  | fuel + 1 => do
    match ← nextToken, isBlock with
    | .scalar isPlain text, _ =>
      dropToken
      return p.resolve isPlain text
    | .flowSequenceStart, _ =>
      dropToken
      return .sequence (← readFlowItems true fuel)
    | .flowMappingStart, _ =>
      dropToken
      mappingOf (← readFlowMembers true fuel)
    | .blockSequenceStart, true =>
      dropToken
      return .sequence (← readBlockItems fuel)
    | .blockMappingStart, true =>
      dropToken
      mappingOf (← readBlockMembers fuel)
    | t, _ =>
      if isIndentless ∧ t = .blockEntry then return .sequence (← readIndentlessItems fuel)
      else if p.tag.isSome ∨ p.number.isSome then return p.resolve true ""
      else refuse

/-- Reads the entries of a block sequence to its end. -/
def readBlockItems : (fuel : Nat) → Reading (List Node)
  | 0 => refuse
  | fuel + 1 => do
    if ← dropIf .blockEnd then return []
    else if ← dropIf .blockEntry then
      let item ← readUnless [.blockEntry, .blockEnd] (readNode true false fuel)
      return item :: (← readBlockItems fuel)
    else refuse

/-- Reads the entries of a sequence that is not indented. -/
def readIndentlessItems : (fuel : Nat) → Reading (List Node)
  | 0 => refuse
  | fuel + 1 => do
    if ← dropIf .blockEntry then
      let item ← readUnless [.blockEntry, .key, .value, .blockEnd] (readNode true false fuel)
      return item :: (← readIndentlessItems fuel)
    else return []

/-- Reads the keys and values of a block mapping to its end. -/
def readBlockMembers : (fuel : Nat) → Reading (List Node)
  | 0 => refuse
  | fuel + 1 => do
    if ← dropIf .blockEnd then return []
    else
      let ends : List Token := [.key, .value, .blockEnd]
      let hasKey ← dropIf .key
      let hasValue := (← nextToken) = .value
      if ¬ hasKey ∧ ¬ hasValue then refuse
      else
        let key ← if hasKey then readUnless ends (readNode true true fuel) else pure .missing
        let value ← if ← dropIf .value then readUnless ends (readNode true true fuel)
          else pure .missing
        return key :: value :: (← readBlockMembers fuel)

/-- Reads the items of a flow sequence to its end. -/
def readFlowItems (isFirst : Bool) : (fuel : Nat) → Reading (List Node)
  | 0 => refuse
  | fuel + 1 => do
    if ← dropIf .flowSequenceEnd then return []
    else if !(← dropSeparator isFirst) then refuse
    else if ← dropIf .flowSequenceEnd then return []
    else
      let item ← if ← dropIf .key then readFlowPair fuel else readNode false false fuel
      return item :: (← readFlowItems false fuel)

/-- Reads a pair of a flow sequence behind its question mark. -/
def readFlowPair : (fuel : Nat) → Reading Node
  | 0 => refuse
  | fuel + 1 => do
    let ends : List Token := [.flowEntry, .flowSequenceEnd]
    let hasKey := !((.value :: ends).contains (← nextToken))
    let key ← if hasKey then readNode false false fuel else do
      dropToken
      pure .missing
    let value ← if ← dropIf .value then readUnless ends (readNode false false fuel)
      else pure .missing
    mappingOf [key, value]

/-- Reads the keys and values of a flow mapping to its end. -/
def readFlowMembers (isFirst : Bool) : (fuel : Nat) → Reading (List Node)
  | 0 => refuse
  | fuel + 1 => do
    if ← dropIf .flowMappingEnd then return []
    else if !(← dropSeparator isFirst) then refuse
    else if ← dropIf .flowMappingEnd then return []
    else
      let ends : List Token := [.flowEntry, .flowMappingEnd]
      let isMarked ← dropIf .key
      let isValue := (← nextToken) = .value
      let key ←
        if isMarked then readUnless (.value :: ends) (readNode false false fuel)
        else if isValue then pure .missing
        else readNode false false fuel
      let hasValue ← if isMarked ∨ isValue then dropIf .value else pure false
      let value ← if hasValue then readUnless ends (readNode false false fuel) else pure .missing
      return key :: value :: (← readFlowMembers false fuel)

end

/-! ## Documents -/

/-- Goes over tokens of one kind. -/
def dropAll (t : Token) : Reading Unit := modify fun s => { s with rest := s.rest.dropWhile (· = t) }

/-- A directive. -/
def Token.isDirective : Token → Bool
  | .versionDirective => true
  | .tagDirective _ _ => true
  | _ => false

/-- Reads the directives of a document. The version is given once at most. Of the handles only the
    one that the last directive declares counts. -/
def readDirectives (hasVersion : Bool) : (fuel : Nat) → Reading Unit
  | 0 => pure ()
  | fuel + 1 => do
    match ← nextToken with
    | .versionDirective =>
      if hasVersion then refuse
      else
        modify fun s => { s with handles := [] }
        dropToken
        readDirectives true fuel
    | .tagDirective handle meaning =>
      modify fun s => { s with handles := [(handle, meaning)] }
      dropToken
      readDirectives hasVersion fuel
    | _ => pure ()

/-- Reads a document behind the marker at its start, if there is one. -/
def readDocument (fuel : Nat) : Reading Node := do
  if ← dropIf .documentStart then
    let next ← nextToken
    if next.isDirective then return .missing
    else readUnless [.documentStart, .documentEnd, .streamEnd] (readNode true false fuel)
  else readNode true false fuel

/-- Reads the documents of a text. Behind one that has no end marker the next one needs a start
    marker, and so does one with directives. What its directives say holds for a document only. -/
def readDocuments (needsStart : Bool) (depth : Nat) : (fuel : Nat) → Reading (List Node)
  | 0 => refuse
  | fuel + 1 => do
    dropAll .documentEnd
    if (← nextToken) = .streamEnd then return []
    else
      let isDirected := (← nextToken).isDirective
      readDirectives false (← get).rest.length
      if (needsStart ∨ isDirected) ∧ (← nextToken) ≠ .documentStart then refuse
      else
        let document ← readDocument depth
        modify fun s => { s with handles := [] }
        let isEnded ← dropIf .documentEnd
        if ¬ isEnded ∧ (← nextToken).isDirective then refuse
        else return document :: (← readDocuments (!isEnded) depth fuel)

/-- The documents of a text. -/
def documents? (text : List Char) : Option (List Node) := do
  let tokens ← tokens? text
  let depth := 3 * tokens.length + 10
  (readDocuments false depth (tokens.length + 1)).run' { rest := tokens }

end JobMonitor.Yaml
