set_option autoImplicit false

/-! # Patterns of texts

A pattern has a character for itself, `?` for any character, `*` for any text and characters between
brackets for one of them. A quoted character stands for itself. -/

namespace JobMonitor.Shell

/-- A part of a pattern. -/
inductive Wildcard where
  | char (c : Char)
  | any
  | many
  /-- A character in one of the ranges, or in none of them. -/
  | oneOf (isNegated : Bool) (ranges : List (Char × Char))
deriving DecidableEq, Repr

/-- The classes of characters that have a name. -/
def characterClasses : List (String × List (Char × Char)) :=
  let upper := ('A', 'Z')
  let lower := ('a', 'z')
  let digit := ('0', '9')
  [("alpha", [upper, lower]), ("digit", [digit]), ("alnum", [upper, lower, digit]), ("upper", [upper]),
    ("lower", [lower]), ("space", [(' ', ' '), ('\t', '\r')]), ("blank", [(' ', ' '), ('\t', '\t')]),
    ("xdigit", [digit, ('A', 'F'), ('a', 'f')]), ("print", [(' ', '~')]), ("graph", [('!', '~')]),
    ("punct", [('!', '/'), (':', '@'), ('[', '\x60'), ('\x7b', '~')])]

/-- The name of a class at the front of a text, and how long the reference to it is. -/
def classAhead? (text : List (Char × Bool)) : Option (List (Char × Char) × Nat) :=
  characterClasses.findSome? fun (name, ranges) =>
    if (name ++ ":]").toList.isPrefixOf (text.map Prod.fst) then some (ranges, name.length + 2) else none

/-- The ranges between brackets behind the opening one, and what is behind the closing one. The
    number says how many characters of a name of a class are still to be passed over. -/
def readRanges (isFirst : Bool) : (passed : Nat) → List (Char × Bool) →
    Option (List (Char × Char) × List (Char × Bool))
  | _, [] => none
  | passed + 1, _ :: rest => readRanges false passed rest
  | 0, (c, isQuoted) :: rest =>
    if c = ']' ∧ ¬ isQuoted ∧ ¬ isFirst then some ([], rest)
    else
      match c, rest with
      | '[', (':', false) :: named =>
        match classAhead? named with
        | some (ranges, length) =>
          (readRanges false (length + 1) rest).map fun (more, rest) => (ranges ++ more, rest)
        | none => (readRanges false 0 rest).map fun (more, rest) => ((c, c) :: more, rest)
      | _, ('-', false) :: (d, isEnd) :: _ =>
        if d = ']' ∧ ¬ isEnd then (readRanges false 0 rest).map fun (more, rest) => ((c, c) :: more, rest)
        else (readRanges false 2 rest).map fun (more, rest) => ((c, d) :: more, rest)
      | _, _ => (readRanges false 0 rest).map fun (more, rest) => ((c, c) :: more, rest)

/-- The parts of a pattern. Of each character it is told whether it is quoted. -/
def readPattern : (fuel : Nat) → List (Char × Bool) → List Wildcard
  | 0, _ | _, [] => []
  | fuel + 1, (c, isQuoted) :: rest =>
    if isQuoted then .char c :: readPattern fuel rest
    else if c = '?' then .any :: readPattern fuel rest
    else if c = '*' then .many :: readPattern fuel rest
    else if c = '[' then
      let (isNegated, inside) := match rest with
        | ('!', false) :: inside | ('^', false) :: inside => (true, inside)
        | _ => (false, rest)
      match readRanges true 0 inside with
      | some (ranges, behind) => .oneOf isNegated ranges :: readPattern fuel behind
      | none => .char c :: readPattern fuel rest
    else .char c :: readPattern fuel rest

/-- The ends of a list, the whole of it first. -/
def ends {α : Type} : List α → List (List α)
  | [] => [[]]
  | a :: rest => (a :: rest) :: ends rest

/-- The text as a whole matches the pattern. -/
def patternMatches : List Wildcard → List Char → Bool
  | [], text => text.isEmpty
  | .many :: pattern, text => (ends text).any (patternMatches pattern)
  | .char c :: pattern, text => text.head? = some c && patternMatches pattern text.tail
  | .any :: pattern, text => !text.isEmpty && patternMatches pattern text.tail
  | .oneOf isNegated ranges :: pattern, text =>
    text.head?.any (fun c => ranges.any (fun r => r.1 ≤ c && c ≤ r.2) != isNegated)
      && patternMatches pattern text.tail

/-- A text without its start or its end that matches a pattern, the longest one or the shortest. -/
def cutMatch (atEnd isLong : Bool) (pattern : List Wildcard) (text : List Char) : List Char :=
  let lengths := (List.range (text.length + 1))
  let lengths := if isLong then lengths.reverse else lengths
  let kept (length : Nat) : List Char :=
    if atEnd then text.take (text.length - length) else text.drop length
  let taken (length : Nat) : List Char :=
    if atEnd then text.drop (text.length - length) else text.take length
  match lengths.find? fun n => patternMatches pattern (taken n) with
  | some n => kept n
  | none => text

end JobMonitor.Shell
