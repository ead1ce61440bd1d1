/-
Commands of shell scripts.

A script is a command.  Its words keep apart what stood between quotation marks and what
is filled in when the command runs: parameters, sums and the output of other commands.

The modules about the shell stand for the machine on which the tools of a build are started, as
far as runs with tools need one; the program has no such code and takes any `Launcher`.
-/
namespace MockServer.Shell

/-- A part of a word.  A part between quotation marks is not split into fields.  A parameter may
have something in place of a missing or blank value.  The texts in place of values, of sums and
of commands are read when they are needed. -/
inductive Part where
  | literal (text : List Char) (quoted : Bool)
  | parameter (name : String) (instead : Option (List Char)) (quoted : Bool)
  | arithmetic (text : List Char) (quoted : Bool)
  | output (text : List Char) (quoted : Bool)
  deriving DecidableEq, Repr

/-- Did a part stand between quotation marks? -/
def Part.isQuoted : Part → Bool
  | .literal _ quoted => quoted
  | .parameter _ _ quoted => quoted
  | .arithmetic _ quoted => quoted
  | .output _ quoted => quoted

/-- A word. -/
abbrev Word := List Part

/-- What a redirection does to a stream of a command. -/
inductive Direction where
  | from
  | replacing
  | behind
  | duplicate
  deriving DecidableEq, Repr

/-- A redirection of the stream with a number. -/
structure Redirection where
  descriptor : Nat
  direction : Direction
  target : Word
  deriving DecidableEq, Repr

/-- A simple command, with the line on which it begins. -/
structure Simple where
  line : Nat
  assignments : List (String × Word)
  words : List Word
  redirections : List Redirection
  deriving DecidableEq, Repr

/-- A command. -/
inductive Command where
  | nothing
  | simple (command : Simple)
  | sequence (first second : Command)
  | both (first second : Command)
  | either (first second : Command)
  | pipe (first second : Command)
  | apart (body : Command)
  | redirected (line : Nat) (body : Command) (redirections : List Redirection)
  | branch (test yes no : Command)
  | loop (test body : Command)
  | each (name : String) (words : List Word) (body : Command)
  | choice (subject : Word) (cases : List (List Word × Command))

end MockServer.Shell
