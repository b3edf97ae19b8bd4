import JobMonitor.Shell.Builtin

set_option autoImplicit false

/-! # Programs for texts

The programs that read the files they are given, or else their input, and print a part of that or
something about it. -/

namespace JobMonitor.Shell

/-- One of the letters is among the options. -/
def hasOption (letters : String) (arguments : List String) : Bool :=
  arguments.any fun text => text.startsWith "-" && text.toList.any (letters.toList.contains ·)

/-- The arguments that are no options. -/
def pathsAmong (arguments : List String) : List String :=
  arguments.filter fun text => text = "-" ∨ ¬ text.startsWith "-"

/-- The lines of a text, each with its line break. -/
def linesOfText (text : String) : List (List Char) :=
  let whole := (splitChars '\n' text.toList)
  let last := whole.getLastD []
  whole.dropLast.map (· ++ ['\n']) ++ if last.isEmpty then [] else [last]

/-- The content of a file, or of the input. -/
def contentOf (program : String) (path : Path) : Act (Option String) := do
  if path = "-" then return some (← takeAll 0)
  else if path = nullDevice then return some ""
  else
    let files := (← get).files
    match files.textAt path with
    | .ok text =>
      if files.isDirectory path then
        emit 2 (program ++ ": " ++ path ++ ": Is a directory\n")
        return none
      else return some text
    | .error _ =>
      emit 2 (program ++ ": " ++ path ++ ": No such file or directory\n")
      return none

/-- The contents of the files that are there, and whether all of them are. Without files it is the
    content of the input. -/
def contentsOf (program : String) (paths : List Path) : Act (List String × Bool) := do
  let found ← (if paths.isEmpty then ["-"] else paths).mapM (contentOf program)
  return (found.filterMap id, found.all (·.isSome))

/-- Prints the part of a text that a number of lines or characters makes. -/
def cutText (cutLines : Nat → List (List Char) → List (List Char))
    (cutChars : Nat → List Char → List Char) (arguments : List String) : Act Nat := do
  let number? (text : String) : Option Nat := natural? text.toList
  let (cut, paths) : Option (List Char → List Char) × List String :=
    let lines (n : Nat) (text : List Char) : List Char :=
      (cutLines n (linesOfText (String.ofList text))).flatten
    match arguments with
    | "-n" :: n :: paths => ((number? n).map lines, paths)
    | "-c" :: n :: paths => ((number? n).map cutChars, paths)
    | option :: paths =>
      match option.toList with
      | '-' :: 'n' :: n => ((natural? n).map lines, paths)
      | '-' :: 'c' :: n => ((natural? n).map cutChars, paths)
      | '-' :: n@(_ :: _) => ((natural? n).map lines, paths)
      | _ => (some (lines 10), option :: paths)
    | [] => (some (lines 10), [])
  match cut with
  | none => return 1
  | some cut =>
    let (texts, areThere) ← contentsOf "head" paths
    texts.forM fun text => emit 1 (String.ofList (cut text.toList))
    return if areThere then 0 else 1

/-- The words of a text. -/
def wordsOfText (text : String) : List (List Glyph) :=
  cutFields [' '] (text.toList.map fun c => .loose (if isSpaceChar c then ' ' else c))

/-- Counts the lines, words or bytes of texts. -/
def countText (arguments : List String) : Act Nat := do
  let paths := pathsAmong arguments
  let has (letter : Char) : Bool := hasOption letter.toString arguments
  let (texts, areThere) ← contentsOf "wc" paths
  let isPlain := !(has 'l' || has 'w' || has 'c' || has 'm')
  texts.forM fun text => do
    let counts := (if has 'l' || isPlain then [text.toList.count '\n'] else [])
      ++ (if has 'w' || isPlain then [(wordsOfText text).length] else [])
      ++ (if has 'c' || isPlain then [text.utf8ByteSize] else [])
      ++ (if has 'm' then [text.length] else [])
    say (" ".intercalate (counts.map decimal ++ paths.take 1))
  return if areThere then 0 else 1

/-- A text is a part of another one. -/
def isPartOf (part : List Char) (text : List Char) : Bool := (ends text).any part.isPrefixOf

/-- Prints the lines that a text is a part of. At its ends there may be marks for those of a line. -/
def findText (arguments : List String) : Act Nat := do
  let has (letter : Char) : Bool := hasOption letter.toString arguments
  match pathsAmong arguments with
  | [] => return 2
  | pattern :: paths =>
    let folded (text : List Char) : List Char := if has 'i' then text.map Char.toLower else text
    let part := folded pattern.toList
    let atStart := part.head? = some '^' && !has 'F'
    let part := if atStart then part.tail else part
    let atEnd := part.getLast? = some '$' && !has 'F'
    let part := if atEnd then part.dropLast else part
    let isHit (line : List Char) : Bool :=
      let line := folded (line.filter (· ≠ '\n'))
      (match atStart || has 'x', atEnd || has 'x' with
        | true, true => line == part
        | true, false => part.isPrefixOf line
        | false, true => part.reverse.isPrefixOf line.reverse
        | false, false => isPartOf part line) != has 'v'
    let (texts, areThere) ← contentsOf "grep" paths
    let hits := (texts.flatMap linesOfText).filter isHit
    if ¬ has 'q' then
      if has 'c' then say (decimal hits.length)
      else hits.forM fun line => emit 1 (String.ofList (line.filter (· ≠ '\n') ++ ['\n']))
    return if ¬ areThere ∧ ¬ (has 'q' ∧ ¬ hits.isEmpty) then 2 else if hits.isEmpty then 1 else 0

/-- Prints the lines in order. -/
def sortText (arguments : List String) : Act Nat := do
  let has (letter : Char) : Bool := hasOption letter.toString arguments
  let (texts, areThere) ← contentsOf "sort" (pathsAmong arguments)
  let lines := (texts.flatMap linesOfText).map fun line => String.ofList (line.filter (· ≠ '\n'))
  let key (line : String) : Int := ((signedNumber? (fun cs => some (digitsOf 10 cs)) line).getD 0)
  let before (a b : String) : Bool := if has 'n' ∧ key a ≠ key b then key a < key b else !decide (b < a)
  let sorted := lines.mergeSort before
  let sorted := if has 'u' then sorted.eraseDups else sorted
  (if has 'r' then sorted.reverse else sorted).forM say
  return if areThere then 0 else 2

/-- Prints the input and writes it to files. -/
def copyText (arguments : List String) : Act Nat := do
  let text ← takeAll 0
  emit 1 text
  let mut status := 0
  for path in arguments.filter fun text => ¬ text.startsWith "-" do
    let s ← get
    match s.files.findOrMake path with
    | .ok (id, files) =>
      let content := Bytes.ofText text
      set { s with files := files.modify id fun n =>
        { n with bytes := if arguments.head? = some "-a" then n.bytes ++ content else content } }
    | .error _ => if path ≠ nullDevice then status := 1
  return status

/-- Prints where programs are. -/
def tellPaths (names : List String) : Act Nat := do
  let searchPath := ((← theShell).assigned? "PATH").getD ""
  let mut status := 0
  for name in names do
    let path := if '/' ∈ name.toList then name else (searchProgram? searchPath name).getD ""
    match (programAt? (← get).files.home path).map fun _ => path with
    | some path => say path
    | none => status := 1
  return if names.isEmpty then 1 else status

end JobMonitor.Shell
