set_option autoImplicit false

/-! # Scripts of the shell

What a script consists of. A word is a list of pieces, each of which stands for a text when the script
is run; whether a piece is quoted decides whether its text may be cut into several fields. -/

namespace JobMonitor.Shell

/-- What a reference with a word does. -/
inductive Adjustment where
  /-- The word stands in for a value that is missing. -/
  | orElse
  /-- The word becomes the value if there is none. -/
  | assign
  /-- The word says what is wrong if there is no value. -/
  | demand
  /-- The word stands in the place of a value. -/
  | instead
  /-- The start or the end of a value that matches the word is cut off, as much of it as possible or
      as little. -/
  | cut (atEnd isLong : Bool)
deriving DecidableEq, Inhabited, Repr

/-- What a redirection does with a file. -/
inductive RedirectionKind where
  | read
  | write
  | append
  /-- The target is the number of an open file. -/
  | duplicate
  /-- The target is the text itself. -/
  | lines
deriving DecidableEq, Inhabited, Repr

mutual

/-- A piece of a word. -/
inductive Piece where
  | text (content : String) (isQuoted : Bool)
  | reference (name : String) (isQuoted : Bool)
  /-- A reference with a word. A value that is empty may count as none. -/
  | adjusted (name : String) (adjustment : Adjustment) (countsEmpty : Bool) (word : List Piece)
      (isQuoted : Bool)
  /-- The length of a value. -/
  | length (name : String)
  | arithmetic (expression : List Piece) (isQuoted : Bool)
  /-- What a script prints. -/
  | output (script : Command) (isQuoted : Bool)
  /-- A reference that is not well formed, which is only found out when the script is run. -/
  | broken

/-- A command. -/
inductive Command where
  /-- A program, a function or a command of the shell, on a line of the script. -/
  | simple (line : Nat) (assignments : List (String × List Piece)) (words : List (List Piece))
      (redirections : List Redirection)
  | pipeline (isNegated : Bool) (commands : List Command)
  /-- Two commands of which the second one is run if the first one has succeeded, or if it has
      failed. -/
  | choice (first : Command) (ifFailed : Bool) (second : Command)
  | sequence (commands : List Command)
  | background (command : Command)
  | subshell (body : Command)
  | redirected (command : Command) (redirections : List Redirection)
  | conditional (condition body : Command) (otherwise : Option Command)
  /-- Repeats the body while the condition succeeds, or while it fails. -/
  | loop (untilSuccess : Bool) (condition body : Command)
  /-- Goes over the words, or over the arguments of the script. -/
  | forEach (name : String) (words : Option (List (List Piece))) (body : Command)
  | select (word : List Piece) (branches : List (List (List Piece) × Command))
  | function (name : String) (body : Command)

/-- A redirection of an open file. -/
inductive Redirection where
  | mk (file : Nat) (kind : RedirectionKind) (target : List Piece)

end

instance : Inhabited Command := ⟨.sequence []⟩

/-- A word of a script. -/
abbrev Word := List Piece

end JobMonitor.Shell
