import JobMonitor.Files.Tree
import JobMonitor.Text.Lenient

set_option autoImplicit false

/-! # What every machine has

The programs, directories and devices that are found on any machine. -/

namespace JobMonitor

/-- The programs that every machine has. -/
def machinePrograms : List String := [
  "sh", "dash", "bash", "true", "false", "sleep", "echo", "printf", "cat", "ls", "env", "test", "[",
  "pwd", "timeout", "nohup", "nice", "yes", "expr", "seq", "touch", "mkdir", "rm", "rmdir", "kill",
  "head", "tail", "wc", "grep", "sort", "tee", "basename", "dirname", "which", "date", "id", "uname",
  "hostname", "whoami", "nproc", "df", "sync"]

/-- Where programs are looked for that are named without a directory. -/
def standardSearchPath : String := "/usr/local/sbin:/usr/local/bin:/usr/sbin:/usr/bin:/sbin:/bin"

/-- The variables that every process starts with. -/
def standardVariables : List (String × String) := [("PATH", standardSearchPath), ("HOME", "/root")]

/-- The directories that every machine has. -/
def machineDirectories : List Path := [
  "/bin", "/boot", "/dev", "/dev/shm", "/etc", "/home", "/lib", "/media", "/mnt", "/opt", "/proc",
  "/root", "/run", "/sbin", "/srv", "/sys", "/tmp", "/usr", "/usr/bin", "/usr/lib", "/usr/local",
  "/usr/local/bin", "/usr/local/sbin", "/usr/sbin", "/usr/share", "/var", "/var/log", "/var/tmp"]

/-- The files that every machine has and that are not empty. -/
def machineFiles : List Path :=
  ["/etc/passwd", "/etc/group", "/etc/hosts", "/etc/hostname", "/etc/fstab"]

/-- The device that swallows what is written to it, and has nothing to read. -/
def nullDevice : Path := "/dev/null"

/-- The other devices. -/
def machineDevices : List Path := ["/dev/full", "/dev/random", "/dev/urandom", "/dev/zero", "/dev/tty"]

/-- Goes on from a place by a piece of a path. -/
def Place.follow (place : Place) (piece : String) : Place :=
  if isIdlePiece piece then place else if piece = ".." then place.dropLast else place ++ [piece]

/-- The name of the program at a path, which may start at a place. -/
def programAt? (home : Place) (path : Path) : Option String :=
  let named := pieces '/' path
  if named.getLast?.all (fun piece => isIdlePiece piece ∨ piece = "..") then none
  else match named.foldl Place.follow (if path.isAbsolute then [] else home) with
    | ["bin", name] | ["usr", "bin", name] => if machinePrograms.contains name then some name else none
    | _ => none

/-- The path of the program of a name. -/
def searchProgram? (searchPath name : String) : Option Path :=
  let paths := (pieces ':' searchPath).map fun directory => directory ++ "/" ++ name
  paths.find? fun path => path.isAbsolute && (programAt? [] path).isSome

/-- The files with those that every machine has. -/
def Files.furnished (f : Files) : Files :=
  let f := machineDirectories.foldl (fun f directory => (f.makeDirectories directory.ancestors).2) f
  machineFiles.foldl (fun f path =>
    match f.findOrMake path with
    | .ok (id, f) => f.modify id fun n => { n with bytes := [newline] }
    | .error _ => f) f

/-- The content of the file at a path. -/
def Files.textAt (f : Files) (path : Path) : Except OsError String := do
  let node := f.node (← f.find path)
  return String.ofList (Bytes.lenientChars node.bytes)

end JobMonitor
