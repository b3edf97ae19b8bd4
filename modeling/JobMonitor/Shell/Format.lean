import JobMonitor.Shell.Arithmetic
import JobMonitor.Shell.Wildcard

set_option autoImplicit false

/-! # Printed texts

What `echo` and `printf` print. -/

namespace JobMonitor.Shell

/-! ## Backslashes -/

/-- The characters that a letter behind a backslash stands for. -/
def escapeLetters : List (Char × Nat) := [
  ('a', 7), ('b', 8), ('e', 27), ('f', 12), ('n', 10), ('r', 13), ('t', 9), ('v', 11), ('\\', 0x5C)]

/-- A digit of an octal number. -/
def isOctalDigit (c : Char) : Bool := isDigitChar c && c < '8'

/-- A text without its backslashes, and whether it says that nothing follows it. It can say so, and put
    a 0 before the three digits of a character, unless it is a format. -/
def unescape (isFormat : Bool) : (fuel : Nat) → List Char → List Char × Bool
  | 0, text => (text, false)
  | _, [] => ([], false)
  | fuel + 1, c :: rest =>
    let go (c : Char) (rest : List Char) : List Char × Bool :=
      let (text, isLast) := unescape isFormat fuel rest
      (c :: text, isLast)
    match c, rest with
    | '\\', 'c' :: _ => if isFormat then go c rest else ([], true)
    | '\\', d :: behind =>
      match escapeLetters.lookup d with
      | some code => go (Char.ofNat code) behind
      | none =>
        if isOctalDigit d then
          let digits := if d = '0' ∧ ¬ isFormat then behind else rest
          let (code, left) := digitsOf 8 (digits.take 3)
          go (Char.ofNat (code % 256)) (left ++ digits.drop 3)
        else go c rest
    | _, _ => go c rest

/-- What `echo` prints. -/
def echoText (arguments : List String) (readsEscapes : Bool) : String :=
  let (hasEnd, words) := match arguments with
    | "-n" :: words => (false, words)
    | _ => (true, arguments)
  let text := (" ".intercalate words).toList
  let (text, isLast) := if readsEscapes then unescape false text.length text else (text, false)
  String.ofList text ++ if hasEnd && !isLast then "\n" else ""

/-! ## Formats -/

/-- A part of a format. -/
inductive Directive where
  | text (content : List Char)
  /-- An argument is printed in at least so many characters. -/
  | argument (kind : Char) (flags : List Char) (width : Nat) (precision : Option Nat)

/-- The parts of a format, if it is well formed. -/
def readFormat : (fuel : Nat) → List Char → Option (List Directive)
  | 0, _ | _, [] => some []
  | fuel + 1, '%' :: '%' :: rest => (.text ['%'] :: ·) <$> readFormat fuel rest
  | fuel + 1, '%' :: rest =>
    let flags := rest.takeWhile ("-+ 0#".toList.contains ·)
    let (width, rest) := digitsOf 10 (rest.drop flags.length)
    let (precision, rest) := match rest with
      | '.' :: rest =>
        let (n, rest) := digitsOf 10 rest
        (some n, rest)
      | _ => (none, rest)
    match rest with
    | kind :: rest =>
      if "diouxXcsb".toList.contains kind then
        (.argument kind flags width precision :: ·) <$> readFormat fuel rest
      else none
    | [] => none
  | fuel + 1, text =>
    let plain := text.takeWhile (· ≠ '%')
    (.text plain :: ·) <$> readFormat fuel (text.drop plain.length)

/-- The digits of a number in a base. -/
def digitsIn (base : Nat) (n : Nat) : List Char := Nat.toDigits base n

/-- The number that an argument is, and whether it is one. -/
def printedNumber (argument : String) : Int × Bool :=
  match argument.toList with
  | '\'' :: c :: _ | '"' :: c :: _ => (c.toNat, true)
  | [] => (0, true)
  | text =>
    -- what is no number behind the digits is wrong, but does not change them
    let spelled := (ends text.reverse).map List.reverse
    match spelled.findSome? fun text => signedNumber? leadingNumber? (String.ofList text) with
    | some n => (n, (signedNumber? leadingNumber? argument).isSome)
    | none => (0, false)

/-- A text filled up to a width. -/
def padded (isLeft : Bool) (filler : Char) (width : Nat) (text : List Char) : List Char :=
  let fill := List.replicate (width - text.length) filler
  if isLeft then text ++ fill else fill ++ text

/-- What a part of a format prints, whether its argument was fine, and whether it ends the printing. -/
def Directive.print (d : Directive) (argument : String) : List Char × Bool × Bool :=
  match d with
  | .text content => (content, true, false)
  | .argument kind flags width precision =>
    let isLeft := flags.contains '-'
    let cut (cs : List Char) : List Char := (precision.map cs.take).getD cs
    if kind = 's' then (padded isLeft ' ' width (cut argument.toList), true, false)
    else if kind = 'c' then (padded isLeft ' ' width (argument.toList.take 1), true, false)
    else if kind = 'b' then
      let (shown, isLast) := unescape false argument.length argument.toList
      (padded isLeft ' ' width (cut shown), true, isLast)
    else
      let (n, isFine) := printedNumber argument
      let isSigned := kind = 'd' || kind = 'i'
      let size := if isSigned then n.natAbs else (Int64.ofInt n).toUInt64.toNat
      let digits := digitsIn (if kind = 'o' then 8 else if kind = 'x' ∨ kind = 'X' then 16 else 10) size
      let digits := if kind = 'X' then digits.map Char.toUpper else digits
      let digits := padded false '0' (precision.getD 1) digits
      let sign := if isSigned ∧ n < 0 then ['-'] else if isSigned ∧ flags.contains '+' then ['+']
        else if isSigned ∧ flags.contains ' ' then [' ']
        else if flags.contains '#' ∧ kind = 'o' then ['0']
        else if flags.contains '#' ∧ size ≠ 0 ∧ (kind = 'x' ∨ kind = 'X') then ['0', kind]
        else []
      if flags.contains '0' ∧ ¬ isLeft ∧ precision.isNone then
        (sign ++ padded false '0' (width - sign.length) digits, isFine, false)
      else (padded isLeft ' ' width (sign ++ digits), isFine, false)

/-- What the parts of a format print: the text, the arguments that are left, whether the arguments were
    fine, and whether that is all. -/
def printOnce : List Directive → List String → List Char × List String × Bool × Bool
  | [], arguments => ([], arguments, true, false)
  | d :: rest, arguments =>
    let (text, isFine, isLast) := d.print (arguments.headD "")
    let arguments := match d with
      | .text _ => arguments
      | .argument .. => arguments.tail
    if isLast then (text, arguments, isFine, true)
    else
      let (more, arguments, othersFine, isLast) := printOnce rest arguments
      (text ++ more, arguments, isFine && othersFine, isLast)

/-- What a format prints. It is gone over as long as there are arguments. -/
def printAll (format : List Directive) : (fuel : Nat) → List String → List Char × Bool
  | 0, _ => ([], true)
  | fuel + 1, arguments =>
    let (text, left, isFine, isLast) := printOnce format arguments
    if isLast ∨ left.isEmpty ∨ left.length = arguments.length then (text, isFine)
    else
      let (more, othersFine) := printAll format fuel left
      (text ++ more, isFine && othersFine)

/-- What `printf` prints and whether the arguments were fine, if the format is well formed. -/
def printfText (format : String) (arguments : List String) : Option (String × Bool) := do
  let text := (unescape true format.length format.toList).1
  let directives ← readFormat (text.length + 1) text
  let (text, isFine) := printAll directives (arguments.length + 1) arguments
  return (String.ofList text, isFine)

end JobMonitor.Shell
