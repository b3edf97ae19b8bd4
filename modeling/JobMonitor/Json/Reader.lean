import JobMonitor.Json.Lexical

set_option autoImplicit false

/-! # Reading JSON values

A value is read by descent. The nesting of lists and objects is limited, so the depth that is
left is what the recursion runs on. The readers for lists and objects take the reader for their
items or members as an argument, and so serve typed records as well. -/

namespace JobMonitor

/-! ## What a value starts with -/

/-- The kinds of value, told apart by their first byte. -/
inductive Json.Lead where
  | letterN
  | letterT
  | letterF
  | minus
  | digit
  | quote
  | bracket
  | brace
  | other
deriving DecidableEq, Repr

/-- The kind of value that a byte starts. -/
def Json.lead (b : UInt8) : Json.Lead :=
  if b = 'n'.toUInt8 then .letterN
  else if b = 't'.toUInt8 then .letterT
  else if b = 'f'.toUInt8 then .letterF
  else if b = '-'.toUInt8 then .minus
  else if Json.isDigit b then .digit
  else if b = '"'.toUInt8 then .quote
  else if b = '['.toUInt8 then .bracket
  else if b = '{'.toUInt8 then .brace
  else .other

/-! ## Lists -/

/-- Looks for an item of a list: where it starts, or `none` before the closing bracket. -/
def Json.nextItem? (isFirst : Bool) (s : Bytes) : Except Json.TextError (Option Bytes) :=
  match Json.skipBlank s with
  | [] => .error .endInList
  | b :: s =>
    if b = ']'.toUInt8 then .ok none
    else if isFirst then .ok (some (b :: s))
    else if b = ','.toUInt8 then
      match Json.skipBlank s with
      | [] => .error .endInValue
      | c :: s => if c = ']'.toUInt8 then .error .trailingComma else .ok (some (c :: s))
    else .error .expectedListCommaOrEnd

/-- Expects the closing bracket of a list. -/
def Json.endList (s : Bytes) : Except Json.TextError Bytes :=
  match Json.skipBlank s with
  | [] => .error .endInList
  | b :: s =>
    if b = ']'.toUInt8 then .ok s
    else if b = ','.toUInt8 ∧ (Json.skipBlank s).head? = some ']'.toUInt8 then
      .error .trailingComma
    else .error .trailingCharacters

/-- The items of a list up to its closing bracket. An item takes at least one byte, so the
    number of bytes is enough fuel, and it runs out only where the text has ended. -/
def Json.readItems {ε α : Type} (lift : Json.TextError → ε)
    (read : Bytes → Except ε (α × Bytes)) :
    (fuel : Nat) → (isFirst : Bool) → Bytes → Except ε (List α × Bytes)
  | 0, _, _ => .error (lift .endInList)
  | fuel + 1, isFirst, s =>
    match Json.nextItem? isFirst s with
    | .error e => .error (lift e)
    | .ok none => ((Json.endList s).map ([], ·)).mapError lift
    | .ok (some s) =>
      match read s with
      | .error e => .error e
      | .ok (item, s) =>
        (Json.readItems lift read fuel false s).map fun (items, s) => (item :: items, s)

/-- A list behind its opening bracket. -/
def Json.readList {ε α : Type} (lift : Json.TextError → ε)
    (read : Bytes → Except ε (α × Bytes)) (s : Bytes) : Except ε (List α × Bytes) :=
  Json.readItems lift read s.length true s

/-! ## Objects -/

/-- Looks for a member of an object: where its key starts behind the opening quote, or `none`
    before the closing brace. -/
def Json.nextKey? (isFirst : Bool) (s : Bytes) : Except Json.TextError (Option Bytes) :=
  match Json.skipBlank s with
  | [] => .error .endInObject
  | b :: s =>
    if b = '}'.toUInt8 then .ok none
    else if isFirst then
      if b = '"'.toUInt8 then .ok (some s) else .error .keyNotString
    else if b = ','.toUInt8 then
      match Json.skipBlank s with
      | [] => .error .endInValue
      | c :: s =>
        if c = '"'.toUInt8 then .ok (some s)
        else if c = '}'.toUInt8 then .error .trailingComma
        else .error .keyNotString
    else .error .expectedObjectCommaOrEnd

/-- Expects the closing brace of an object. -/
def Json.endObject (s : Bytes) : Except Json.TextError Bytes :=
  match Json.skipBlank s with
  | [] => .error .endInObject
  | b :: s =>
    if b = '}'.toUInt8 then .ok s
    else if b = ','.toUInt8 then .error .trailingComma
    else .error .trailingCharacters

/-- Expects the colon between a key and its value. -/
def Json.expectColon (s : Bytes) : Except Json.TextError Bytes :=
  match Json.skipBlank s with
  | [] => .error .endInObject
  | b :: s => if b = ':'.toUInt8 then .ok s else .error .expectedColon

/-- The members of an object up to its closing brace, gathered into a state. `member` reads one
    behind the opening quote of its key. The fuel is as for lists. -/
def Json.readMembers {ε σ : Type} (lift : Json.TextError → ε)
    (member : σ → Bytes → Except ε (σ × Bytes)) :
    (fuel : Nat) → (isFirst : Bool) → σ → Bytes → Except ε (σ × Bytes)
  | 0, _, _, _ => .error (lift .endInObject)
  | fuel + 1, isFirst, state, s =>
    match Json.nextKey? isFirst s with
    | .error e => .error (lift e)
    | .ok none => ((Json.endObject s).map (state, ·)).mapError lift
    | .ok (some s) =>
      match member state s with
      | .error e => .error e
      | .ok (state, s) => Json.readMembers lift member fuel false state s

/-- An object behind its opening brace. -/
def Json.readObject {ε σ : Type} (lift : Json.TextError → ε)
    (member : σ → Bytes → Except ε (σ × Bytes)) (start : σ) (s : Bytes) :
    Except ε (σ × Bytes) :=
  Json.readMembers lift member s.length true start s

/-! ## Values -/

/-- A member of an object of values, put among those read before. -/
def Json.readMember (read : Bytes → Json.Scan Json) (members : List (String × Json)) (s : Bytes) :
    Json.Scan (List (String × Json)) :=
  match Json.readString s with
  | .error e => .error e
  | .ok (key, s) =>
    match Json.expectColon s with
    | .error e => .error e
    | .ok s =>
      match read s with
      | .error e => .error e
      | .ok (value, s) => .ok (Json.insertMember key value members, s)

/-- A value, with at most `depth` lists and objects one inside the other. -/
def Json.readValue (depth : Nat) (s : Bytes) : Json.Scan Json :=
  match Json.skipBlank s with
  | [] => .error .endInValue
  | b :: s =>
    match Json.lead b with
    | .letterN => (Json.expectNull s).map (.null, ·)
    | .letterT => (Json.expectTrue s).map (.bool true, ·)
    | .letterF => (Json.expectFalse s).map (.bool false, ·)
    | .minus => (Json.readNumber true s).map fun (n, s) => (.number n, s)
    | .digit => (Json.readNumber false (b :: s)).map fun (n, s) => (.number n, s)
    | .quote => (Json.readString s).map fun (text, s) => (.string text, s)
    | .bracket =>
      match depth with
      | 0 => .error .nestingTooDeep
      | depth + 1 =>
        (Json.readList id (Json.readValue depth) s).map fun (items, s) => (.array items, s)
    | .brace =>
      match depth with
      | 0 => .error .nestingTooDeep
      | depth + 1 =>
        (Json.readObject id (Json.readMember (Json.readValue depth)) [] s).map
          fun (members, s) => (.object members, s)
    | .other => .error .expectedValue

/-- How many lists and objects may stand one inside the other. -/
def Json.maxDepth : Nat := 127

/-- Nothing but blanks may be left. -/
def Json.expectEnd (s : Bytes) : Except Json.TextError Unit :=
  if (Json.skipBlank s).isEmpty then .ok () else .error .trailingCharacters

/-- The value that a whole text holds. -/
def Json.read (s : Bytes) : Except Json.TextError Json :=
  match Json.readValue Json.maxDepth s with
  | .error e => .error e
  | .ok (value, s) => (Json.expectEnd s).map fun _ => value

/-! ## Skipped values

A member that nobody asks for is skipped without being built. There is no limit on the nesting,
and after a comma a closing bracket is a missing value and a closing brace a missing key. -/

/-- Skips the items of a list from the first one on. An item and its comma take at least two
    bytes, so the number of bytes is enough fuel. -/
def Json.skipItems (skip : Bytes → Except Json.TextError Bytes) :
    (fuel : Nat) → Bytes → Except Json.TextError Bytes
  | 0, _ => .error .endInValue
  | fuel + 1, s =>
    match skip s with
    | .error e => .error e
    | .ok s =>
      match Json.skipBlank s with
      | [] => .error .endInList
      | b :: s =>
        if b = ']'.toUInt8 then .ok s
        else if b = ','.toUInt8 then Json.skipItems skip fuel s
        else .error .expectedListCommaOrEnd

/-- Skips a list behind its opening bracket. -/
def Json.skipList (skip : Bytes → Except Json.TextError Bytes) (s : Bytes) :
    Except Json.TextError Bytes :=
  match Json.skipBlank s with
  | [] => .error .endInList
  | b :: s => if b = ']'.toUInt8 then .ok s else Json.skipItems skip (s.length + 1) (b :: s)

/-- Skips the members of an object from the first one on, with the fuel of `skipItems`. -/
def Json.skipMembers (skip : Bytes → Except Json.TextError Bytes) :
    (fuel : Nat) → Bytes → Except Json.TextError Bytes
  | 0, _ => .error .endInObject
  | fuel + 1, s =>
    match Json.skipBlank s with
    | [] => .error .endInObject
    | b :: s =>
      if b ≠ '"'.toUInt8 then .error .keyNotString
      else
        match (Json.skipString s).bind Json.expectColon with
        | .error e => .error e
        | .ok s =>
          match skip s with
          | .error e => .error e
          | .ok s =>
            match Json.skipBlank s with
            | [] => .error .endInObject
            | b :: s =>
              if b = '}'.toUInt8 then .ok s
              else if b = ','.toUInt8 then Json.skipMembers skip fuel s
              else .error .expectedObjectCommaOrEnd

/-- Skips an object behind its opening brace. -/
def Json.skipObject (skip : Bytes → Except Json.TextError Bytes) (s : Bytes) :
    Except Json.TextError Bytes :=
  match Json.skipBlank s with
  | [] => .error .endInObject
  | b :: s => if b = '}'.toUInt8 then .ok s else Json.skipMembers skip (s.length + 1) (b :: s)

/-- Skips a value. A nested value stands behind at least one byte of the value around it, so the
    number of bytes is enough fuel. -/
def Json.skipNested : (fuel : Nat) → Bytes → Except Json.TextError Bytes
  | 0, _ => .error .endInValue
  | fuel + 1, s =>
    match Json.skipBlank s with
    | [] => .error .endInValue
    | b :: s =>
      match Json.lead b with
      | .letterN => Json.expectNull s
      | .letterT => Json.expectTrue s
      | .letterF => Json.expectFalse s
      | .minus => Json.skipNumber s
      | .digit => Json.skipNumber (b :: s)
      | .quote => Json.skipString s
      | .bracket => Json.skipList (Json.skipNested fuel) s
      | .brace => Json.skipObject (Json.skipNested fuel) s
      | .other => .error .expectedValue

/-- Skips a value. -/
def Json.skipValue (s : Bytes) : Except Json.TextError Bytes := Json.skipNested s.length s

end JobMonitor
