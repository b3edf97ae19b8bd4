import JobMonitor.Log.Pattern
import JobMonitor.Text.Pieces

set_option autoImplicit false

/-! # Log filters

Which lines are logged is said by directives with commas between them. A directive is a level, the
name of a part of the program, or both with an equals sign between them; behind the name there may
be a condition in brackets on what the program is doing at the moment. -/

namespace JobMonitor

/-- The names of the levels and of the absence of any. -/
def levelNames : List String := ["off", "error", "warn", "info", "debug", "trace"]

/-- A level: its name in letters of either case, or its number. -/
def isLevel (text : List Char) : Bool :=
  let digits := match text with
    | '+' :: digits => digits
    | digits => digits
  levelNames.contains (String.ofList (smallLetters text)) ||
    (natural? digits).any (· < levelNames.length)

/-- What is wrong with a directive. -/
inductive FilterError where
  | directive
  | level
  | value
deriving DecidableEq, Repr

/-- The wording of an error. -/
def FilterError.message : FilterError → String
  | .directive => "invalid filter directive"
  | .level => "error parsing level filter: expected one of \"off\", \"error\", \"warn\", \"info\", "
      ++ "\"debug\", \"trace\", or a number 0-5"
  | .value => "invalid field filter: error building NFA"

/-- Where the reading of a directive is. -/
inductive DirectiveState where
  | start
  /-- In the name or the level that the directive begins with. -/
  | name
  /-- Between brackets. -/
  | span
  /-- In a condition between braces inside the brackets, which begins so far into the text. -/
  | field (place : Nat)
  /-- Behind the braces. -/
  | fields
  /-- Behind the brackets. -/
  | target
  /-- In the level behind the equals sign, so far into the text. -/
  | level (place : Nat)
deriving DecidableEq, Repr

/-- A directive may begin with this character. -/
def startsDirective (c : Char) : Bool := c = '-' || c = ':' || c = '_' || isAlphanumeric c

/-- What is left of a text behind so many bytes. -/
def dropBytes : (count : Nat) → List Char → List Char
  | 0, text => text
  | _ + 1, [] => []
  | n + 1, c :: rest => dropBytes (n + 1 - c.utf8Size) rest

/-- The characters of a text in so many bytes. -/
def takeBytes : (count : Nat) → List Char → List Char
  | 0, _ => []
  | _ + 1, [] => []
  | n + 1, c :: rest => c :: takeBytes (n + 1 - c.utf8Size) rest

/-- Checks a condition: the name of a field, and a value behind an equals sign. What follows a second
    one does not count. -/
def checkField (text : List Char) : Except FilterError Unit :=
  if text.isEmpty then .error .directive
  else match splitChars '=' text with
    | _ :: value :: _ => if Pattern.isFieldValue value then .ok () else .error .value
    | _ => .ok ()

/-- Goes over the character at a place of the directive, which stands in a text. -/
def DirectiveState.step (s : DirectiveState) (text : List Char) (place : Nat) (c : Char) :
    Except FilterError DirectiveState := do
  match s with
  | .start =>
    if c = '[' then return .span
    else if startsDirective c then return .name
    else .error .directive
  | .name => return if c = '=' then .level (place + 1) else if c = '[' then .span else .name
  | .span =>
    return if c = ']' then .target else if c.toNat = 0x7B then .field (place + 1) else .span
  | .field first =>
    if c.toNat = 0x7D then
      checkField (takeBytes (place - first) (dropBytes first text))
      return .fields
    else return .field first
  | .fields => if c = ']' then return .target else .error .directive
  | .target => if c = '=' then return .level (place + 1) else .error .directive
  | .level first => return .level first

/-- Goes over the characters of a directive from a place on. Places are counted in bytes. -/
def DirectiveState.run (s : DirectiveState) (text : List Char) (place : Nat) :
    List Char → Except FilterError DirectiveState
  | [] => .ok s
  | c :: rest => do (← s.step text place c).run text (place + c.utf8Size) rest

/-- Checks a directive. Blanks around it do not count, but levels and conditions are looked for as if
    there were none in front of it. -/
def checkDirective (text : List Char) : Except FilterError Unit := do
  match ← DirectiveState.start.run text 0 (trim text) with
  | .name | .target => return
  | .level place =>
    let level := dropBytes place text
    if level.isEmpty ∨ isLevel level then return else .error .level
  | _ => .error .directive

/-- Checks a filter. Between commas there may be nothing. -/
def checkFilter (text : String) : Except FilterError Unit :=
  ((splitChars ',' text.toList).filter (!·.isEmpty)).forM checkDirective

end JobMonitor
