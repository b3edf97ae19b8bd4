import JobMonitor.Files.Error
import JobMonitor.Files.Path
import JobMonitor.Text.Bytes

set_option autoImplicit false

/-! # Files

The directories, files and pipes that the monitor works with. A name leads to a file; the file
itself lives on for those who have it open when its name is gone. What has been written to a pipe
waits there until it is read, and is lost when nobody has the pipe open any more. What is to be added to a
regular file may be handed over first, and is written later, if the file does not refuse it. -/

namespace JobMonitor

/-- What a file is. -/
inductive FileKind where
  | directory
  | regular
  | fifo
deriving DecidableEq, Inhabited, Repr

/-- A file. -/
structure FileNode where
  kind : FileKind
  /-- The content of a regular file, or what waits in a pipe. -/
  bytes : Bytes := []
  /-- What has been handed over to be added to a regular file and has not been written yet. -/
  unwritten : Bytes := []
  /-- Why the file takes nothing that is to be added, if it does not. -/
  refusal : Option OsError := none
  /-- How many have the pipe open for reading. -/
  readers : Nat := 0
  /-- How many have the pipe open for writing. -/
  writers : Nat := 0
  /-- Somebody holds the lock of the file. -/
  locked : Bool := false
deriving DecidableEq, Inhabited, Repr

/-- Files are told apart by a number. -/
abbrev FileId := Nat

/-- The names that lead from the root to a file. -/
abbrev Place := List String

/-- The files of a machine. -/
structure Files where
  /-- The files by number. -/
  nodes : List FileNode
  /-- Which file is at which place. -/
  names : List (Place × FileId)
  /-- Where paths start that do not start at the root. -/
  home : Place
deriving DecidableEq, Repr

/-- The root directory and nothing in it. -/
def Files.empty : Files := ⟨[{ kind := .directory }], [([], 0)], []⟩

instance : Inhabited Files := ⟨Files.empty⟩

/-- The longest name that a file can have, in bytes. -/
def maxNameBytes : Nat := 255

/-- The longest path, in bytes. -/
def maxPathBytes : Nat := 4095

/-! ## Finding files -/

/-- The file with a number. -/
def Files.node (f : Files) (id : FileId) : FileNode := f.nodes[id]?.getD default

/-- The kind of the file at a place. -/
def Files.kindAt? (f : Files) (place : Place) : Option FileKind :=
  (f.names.lookup place).map fun id => (f.node id).kind

/-- One step of a path. Only from a directory can one go on. -/
def Files.step (f : Files) (place : Place) (piece : String) : Except OsError Place :=
  if f.kindAt? place ≠ some .directory then .error .notDirectory
  else if isIdlePiece piece then .ok place
  else if piece = ".." then .ok place.dropLast
  else if piece.utf8ByteSize > maxNameBytes then .error .nameTooLong
  else if (f.kindAt? (place ++ [piece])).isSome then .ok (place ++ [piece])
  else .error .notFound

/-- The names in the directory at a place. -/
def Files.namesIn (f : Files) (place : Place) : List String :=
  f.names.filterMap fun (p, _) => if p ≠ [] ∧ p.dropLast = place then p.getLast? else none

/-- Where a path starts, and its pieces. -/
def Files.start (f : Files) (path : Path) : Except OsError (Place × List String) :=
  if '\x00' ∈ path.toList then .error .zeroByteInPath
  else if path = "" then .error .notFound
  else if path.utf8ByteSize > maxPathBytes then .error .nameTooLong
  else .ok (if path.isAbsolute then [] else f.home, pieces '/' path)

/-- The place of the file that a path leads to. -/
def Files.locate (f : Files) (path : Path) : Except OsError Place := do
  let (place, pieces) ← f.start path
  pieces.foldlM f.step place

/-- The file that a path leads to. -/
def Files.find (f : Files) (path : Path) : Except OsError FileId := do
  match f.names.lookup (← f.locate path) with
  | some id => .ok id
  | none => .error .notFound

/-- The kind of the file that a path leads to. -/
def Files.kind (f : Files) (path : Path) : Except OsError FileKind :=
  (f.find path).map fun id => (f.node id).kind

/-- The path leads to a directory. -/
def Files.isDirectory (f : Files) (path : Path) : Bool := f.kind path matches .ok .directory

/-! ## Making files -/

/-- What a path says about a file that is to be made. -/
structure NewName where
  /-- The place of the directory. -/
  directory : Place
  /-- The name in it. -/
  name : String
  /-- Slashes follow the name. -/
  slashed : Bool

/-- The directory and the name of a file that is to be made. The name may be one that leads
    nowhere or upwards. -/
def Files.newName (f : Files) (path : Path) : Except OsError NewName := do
  let (place, pieces) ← f.start path
  let named := (pieces.reverse.dropWhile (· = "")).reverse
  let directory ← named.dropLast.foldlM f.step place
  if f.kindAt? directory ≠ some .directory then .error .notDirectory
  let name := named.getLast?.getD "."
  if name.utf8ByteSize > maxNameBytes then .error .nameTooLong
  .ok ⟨directory, name, decide (named.length < pieces.length)⟩

/-- Adds a file at a place. -/
def Files.add (f : Files) (place : Place) (node : FileNode) : Files :=
  { f with nodes := f.nodes ++ [node], names := (place, f.nodes.length) :: f.names }

/-- Makes a directory or a pipe. Nothing may be there under the name. -/
def Files.make (f : Files) (path : Path) (kind : FileKind) : Except OsError Files := do
  let new ← f.newName path
  let place := new.directory ++ [new.name]
  if isIdlePiece new.name ∨ new.name = ".." ∨ (f.kindAt? place).isSome then .error .alreadyExists
  if new.slashed ∧ kind ≠ .directory then .error .notFound
  .ok (f.add place { kind })

/-- The regular file or pipe that a path leads to, made as a regular file if nothing is there. -/
def Files.findOrMake (f : Files) (path : Path) : Except OsError (FileId × Files) := do
  let new ← f.newName path
  if new.slashed ∨ isIdlePiece new.name ∨ new.name = ".." then .error .isDirectory
  let place := new.directory ++ [new.name]
  match f.names.lookup place with
  | some id => if (f.node id).kind = .directory then .error .isDirectory else .ok (id, f)
  | none => .ok (f.nodes.length, f.add place { kind := .regular })

/-- Makes a directory and, first, those that it lies in. What is there already is fine if it is a
    directory. The list holds the directory and those that it lies in, innermost first. -/
def Files.makeDirectories (f : Files) : List Path → Except OsError Unit × Files
  | [] => (.ok (), f)
  | path :: parents =>
    let settle (f : Files) (e : OsError) : Except OsError Unit × Files :=
      if e = .alreadyExists ∧ f.isDirectory path then (.ok (), f) else (.error e, f)
    match f.make path .directory with
    | .ok f => (.ok (), f)
    | .error .notFound =>
      match f.makeDirectories parents with
      | (.ok (), f) =>
        match f.make path .directory with
        | .ok f => (.ok (), f)
        | .error e => settle f e
      | failed => failed
    | .error e => settle f e

/-- Takes away the name of a file and of all that lies in it. -/
def Files.remove (f : Files) (path : Path) : Files :=
  match f.locate path with
  | .ok place => { f with names := f.names.filter fun n => ¬ place <+: n.1 }
  | .error _ => f

/-! ## Using files -/

/-- Changes the file with a number. -/
def Files.modify (f : Files) (id : FileId) (change : FileNode → FileNode) : Files :=
  { f with nodes := f.nodes.modify id change }

/-- Writes what has been handed over, unless the file refuses it. -/
def FileNode.write (n : FileNode) : FileNode :=
  if n.refusal.isNone then { n with bytes := n.bytes ++ n.unwritten, unwritten := [] } else n

/-- Forgets what waits in a pipe that nobody has open. -/
def FileNode.settle (n : FileNode) : FileNode :=
  if n.kind = .fifo ∧ n.readers = 0 ∧ n.writers = 0 then { n with bytes := [] } else n

end JobMonitor
