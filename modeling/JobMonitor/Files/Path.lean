import JobMonitor.Text.Pieces

set_option autoImplicit false

/-! # Paths

A path is a text of names with slashes between them. A slash more than needed and the name `.`
mean nothing, except for a `.` at the very start. -/

namespace JobMonitor

/-- The text that says where a file is. -/
abbrev Path := String

/-- The path starts at the root. -/
def Path.isAbsolute (path : Path) : Bool := path.toList.head? = some '/'

/-- Between slashes, these pieces lead nowhere. -/
def isIdlePiece (piece : String) : Bool := piece = "" || piece = "."

/-- The pieces without those at the end that lead nowhere. -/
def dropIdle (pieces : List String) : List String := (pieces.reverse.dropWhile isIdlePiece).reverse

/-- The first piece of a path, the steps behind it and the last step. Without a step, the first
    piece is all there is. -/
def Path.steps (path : Path) : String × List String :=
  match pieces '/' path with
  | [] => ("", [])
  | first :: rest => (first, dropIdle rest)

/-- The path of the directory that a path lies in. The root lies in none. -/
def Path.parent? (path : Path) : Option Path :=
  let (first, steps) := path.steps
  if steps.isEmpty then
    if first = "" then none else some ""
  else
    match "/".intercalate (first :: dropIdle steps.dropLast) with
    | "" => some "/"
    | parent => some parent

/-- The last name of a path, unless it leads upwards or nowhere. -/
def Path.fileName? (path : Path) : Option String :=
  let (first, steps) := path.steps
  match steps.getLast? with
  | some name => if name = ".." then none else some name
  | none => if first = "" ∨ first = "." ∨ first = ".." then none else some first

/-- The path of the directory that a path lies in, if it names one. -/
def Path.directory? (path : Path) : Option Path := path.parent?.filter (· ≠ "")

/-- A path and the directories that it lies in, innermost first, as far as they are named. The
    number says after how many to stop. -/
def Path.ancestorsWithin : Nat → Path → List Path
  | 0, _ => []
  | n + 1, path =>
    match path.parent? with
    | none => []
    | some "" => [path]
    | some parent => path :: ancestorsWithin n parent

/-- A path and the directories that it lies in, innermost first. -/
def Path.ancestors (path : Path) : List Path := path.ancestorsWithin (path.length + 1)

/-- The place of a path that is given relative to a directory. -/
def Path.within (directory path : Path) : Path :=
  if path = "" then directory
  else if path.isAbsolute then path
  else directory ++ "/" ++ path

/-- The ending of a name, behind its last dot. A dot at the start of the name ends no name. -/
def nameEnding? (name : String) : Option String :=
  match (pieces '.' name).reverse with
  | [] | [_] => none
  | [_, ""] => none
  | ending :: _ => some ending

/-- The ending of the last name. -/
def Path.extension? (path : Path) : Option String := path.fileName?.bind nameEnding?

/-- The path with another ending of its last name, and nothing behind that. -/
def Path.withEnding (path : Path) (ending : String) : Path :=
  match path.fileName? with
  | none => path
  | some name =>
    let named := "/".intercalate (path.steps.1 :: path.steps.2)
    let dropped := match nameEnding? name with
      | some old => old.length + 1
      | none => 0
    String.ofList (named.toList.take (named.length - dropped)) ++ "." ++ ending

end JobMonitor
