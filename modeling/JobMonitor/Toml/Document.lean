import JobMonitor.Toml.Moment
import JobMonitor.Toml.Text
import JobMonitor.Toml.Tree

set_option autoImplicit false

/-! # Reading a TOML text

Lines set keys, or open the table that the lines below them set keys in. Values that are lists or
tables are read by recursive descent; each level takes a bracket at either end, so the length of the
text bounds how deep it gets. -/

namespace JobMonitor.Toml

/-! ## Numbers -/

/-- Digits with single underscores between them. -/
def groupedDigits? (belongs : Char → Bool) : List Char → Option (List Char)
  | [] => none
  | [c] => if belongs c then some [c] else none
  | c :: '_' :: rest => if belongs c then (groupedDigits? belongs rest).map (c :: ·) else none
  | c :: rest => if belongs c then (groupedDigits? belongs rest).map (c :: ·) else none

/-- Digits before a point. Only 0 itself begins with 0. -/
def wholeDigits? (text : List Char) : Option (List Char) :=
  (groupedDigits? isDigitChar text).filter fun digits => digits = ['0'] || digits.head? ≠ some '0'

/-- Digits in a base. -/
def basedInteger? (base : Nat) (text : List Char) : Option Int :=
  (groupedDigits? (fun c => (baseDigit? base c).isSome) text).bind (int64InBase? base)

/-- An integer. -/
def integerText? : List Char → Option Int
  | '0' :: 'x' :: digits => basedInteger? 16 digits
  | '0' :: 'o' :: digits => basedInteger? 8 digits
  | '0' :: 'b' :: digits => basedInteger? 2 digits
  | '-' :: digits => (wholeDigits? digits).bind fun digits => int64Of? ('-' :: digits)
  | '+' :: digits => (wholeDigits? digits).bind int64Of?
  | digits => (wholeDigits? digits).bind int64Of?

/-- Digits behind a point. -/
def fractionDigits? (text : List Char) : Option (List Char) := groupedDigits? isDigitChar text

/-- The exponent of a number. -/
def exponentText? (text : List Char) : Option Int :=
  let (isNegative, digits) := splitSign text
  (groupedDigits? isDigitChar digits).map fun digits =>
    if isNegative then -(decimalValue digits : Int) else decimalValue digits

/-- A number with a point or an exponent. It cannot be too large. -/
def realText? (text : List Char) : Option Binary64 := do
  let (isNegative, rest) := splitSign text
  if rest = "inf".toList then some (.infinity isNegative)
  else if rest = "nan".toList then some .nan
  else
    let isWhole (c : Char) : Bool := isDigitChar c || c = '_'
    let whole ← wholeDigits? (rest.takeWhile isWhole)
    let (fraction, rest) ← match rest.dropWhile isWhole with
      | '.' :: rest => (fractionDigits? (rest.takeWhile isWhole)).map (·, rest.dropWhile isWhole)
      | rest => some ([], rest)
    let exponent ← match rest with
      | [] => if fraction.isEmpty then none else some 0
      | c :: rest => if c = 'e' ∨ c = 'E' then exponentText? rest else none
    let value := Binary64.ofDecimal isNegative (decimalValue (whole ++ fraction))
      (exponent - fraction.length)
    if value = .infinity isNegative then none else some value

/-! ## Values -/

/-- A character of a number, a date or a word. -/
def isPlainChar (c : Char) : Bool :=
  c.isAlphanum || c = '_' || c = '+' || c = '-' || c = '.' || c = ':'

/-- What a word, a number or a date stands for. -/
def plainValue? (text : List Char) : Option Setting :=
  if text = "true".toList then some (.boolean true)
  else if text = "false".toList then some (.boolean false)
  else match moment? text, realText? text with
    | some moment, _ => some (.text moment)
    | none, some value => some (.real value)
    | none, none => (integerText? text).map .integer

/-- Reads a word, a number or a date. Between a date and a time of day there may be a space. -/
def readPlain : Reading Setting := do
  let text ← takeClass isPlainChar
  let rest ← get
  let clock := rest.drop 1 |>.takeWhile isPlainChar
  match date? text, rest.head?, offsetClock? clock with
  | some _, some ' ', some _ =>
    let _ ← takeCount (clock.length + 1)
    demand (plainValue? (text ++ 'T' :: clock))
  | _, _, _ => demand (plainValue? text)

mutual

/-- Reads a value in which so many lists and tables may be inside one another. -/
def readValue (depth : Nat) : (fuel : Nat) → Reading Setting
  | 0 => refuse
  | fuel + 1 => do
    if let some text := ← readText? then return .text text
    else if ← takeIf "[" then
      require (0 < depth)
      return .list (← readItems (depth - 1) fuel)
    else if ← takeIf "\x7b" then
      require (0 < depth)
      return .table (memberSettings (← readMembers (depth - 1) [] fuel))
    else readPlain

/-- Reads the items of a list to its end. There may be a comma behind the last one. -/
def readItems (depth : Nat) : (fuel : Nat) → Reading (List Setting)
  | 0 => refuse
  | fuel + 1 => do
    skipSpace
    if ← takeIf "]" then return []
    else
      let item ← readValue depth fuel
      skipSpace
      if ← takeIf "," then return item :: (← readItems depth fuel)
      else
        expect "]"
        return [item]

/-- Reads the members of a table between braces to its end. There may be a comma behind the last
    one. -/
def readMembers (depth : Nat) (members : Members) : (fuel : Nat) → Reading Members
  | 0 => refuse
  | fuel + 1 => do
    skipSpace
    if ← takeIf "\x7d" then return members
    else
      let path ← readKey
      skipSpace
      expect "="
      skipSpace
      let value ← readValue depth fuel
      skipSpace
      let members ← demand (assign path value members)
      if ← takeIf "," then readMembers depth members fuel
      else
        expect "\x7d"
        return members

end

/-! ## Lines -/

/-- What has been read: the tree and the path of the table that has been opened last. -/
structure Draft where
  members : Members := []
  opened : List String := []

/-- Reads one line that says something, or the lines of its value. -/
def readLine (d : Draft) : Reading Draft := do
  if ← takeIf "[[" then
    let path ← readKey
    expect "]]"
    return { members := ← demand (openElement path d.members), opened := path }
  else if ← takeIf "[" then
    let path ← readKey
    expect "]"
    return { members := ← demand (openTable path d.members), opened := path }
  else
    let path ← readKey
    expect "="
    skipBlanks
    let value ← readValue maxDepth (2 * (← get).length + 2)
    return { d with members := ← demand (assignWithin d.opened path value d.members) }

/-- Reads lines to the end of the text. -/
def readAll : (fuel : Nat) → Draft → Reading Draft
  | 0, _ => refuse
  | fuel + 1, d => do
    skipSpace
    if (← get).isEmpty then return d
    else
      let d ← readLine d
      endLine
      readAll fuel d

/-- The settings in a text. A byte order mark at its start says nothing. -/
def settings? (text : List Char) : Option SettingTable :=
  let text := if text.head? = some '\uFEFF' then text.tail else text
  ((readAll (text.length + 1) {}).run' text).map fun d => memberSettings d.members

end JobMonitor.Toml
