/-
Finding programs.

A program is named by a path, or by a name that is looked for along the search path.  The
directories of the machine's own programs hold the shell and the utilities; every other
program is a file, which has to be marked for execution.

This stands for the machine's shell, on which tools are started; the program has no such code.
-/
import MockServer.Build.Toolchain
import MockServer.Shell.Utility

namespace MockServer.Shell

/-- What a path leads to. -/
inductive Program where
  | shell
  | utility (work : Utility)
  | environment
  | file (content : List UInt8)

/-- The directories of the machine's own programs. -/
def systemDirectories : List Place :=
  [["bin"], ["usr", "bin"]]

/-- The names of the shell. -/
def shellNames : List String :=
  ["sh", "dash", "bash"]

/-- The machine's own program with a name. -/
def systemProgram? (name : String) : Option Program :=
  if shellNames.contains name then some .shell
  else if name = "env" then some .environment
  else (Utility.ofName? name).map .utility

/-- The program at a place. -/
def programAt (tree : FileTree) (place : Place) : Except FileFault Program :=
  match tree.at? place with
  | some (.file content true) => .ok (.file content)
  | some _ => .error .permissionDenied
  | none =>
    match if systemDirectories.contains place.dropLast then place.getLast?.bind systemProgram?
        else none with
    | some program => .ok program
    | none => .error .notFound

/-- The program at a path. -/
def programAtPath (tree : FileTree) (directory : Place) (path : String) :
    Except FileFault Program := do
  let place ← tree.resolve directory path
  programAt tree place

/-- The search path where none is set. -/
def standardSearchPath : String :=
  "/usr/local/sbin:/usr/local/bin:/usr/sbin:/usr/bin:/sbin:/bin"

/-- The paths that a name may have along a search path. -/
def candidates (searchPath name : String) : List String :=
  (Build.Toolchain.searchEntries searchPath.toList).map fun entry =>
    if entry = [] then "./" ++ name else Path.join (String.ofList entry) name

/-- The first program that can be run among some paths; a program that is not marked for
execution is passed over, but remembered as the fault. -/
def firstProgram (tree : FileTree) (directory : Place) (fault : FileFault) :
    List String → Except FileFault (String × Program)
  | [] => .error fault
  | path :: rest =>
    match programAtPath tree directory path with
    | .ok program => .ok (path, program)
    | .error .permissionDenied => firstProgram tree directory .permissionDenied rest
    | .error _ => firstProgram tree directory fault rest

/-- Finds a program, with the path that it was found under. -/
def findProgram (tree : FileTree) (directory : Place) (searchPath : Option String)
    (name : String) : Except FileFault (String × Program) :=
  if name.toList.contains '/' then
    (programAtPath tree directory name).map fun program => (name, program)
  else if name = "" then .error .notFound
  else firstProgram tree directory .notFound
    (candidates (searchPath.getD standardSearchPath) name)

/-- The interpreter that the first line of a file names, with its argument. -/
def interpreter? (content : List UInt8) : Option (String × Option String) :=
  match content with
  | 0x23 :: 0x21 :: rest =>
    let line := (Text.decodeLossy (rest.takeWhile (· ≠ 10))).toList
    let isGap (c : Char) : Bool := c = ' ' || c = '\t'
    let trimmed := ((line.dropWhile isGap).reverse.dropWhile isGap).reverse
    let path := trimmed.takeWhile (!isGap ·)
    let argument := (trimmed.dropWhile (!isGap ·)).dropWhile isGap
    if path = [] then none
    else some (String.ofList path, if argument = [] then none else some (String.ofList argument))
  | _ => none

/-- How often the interpreter of a program may be a script that has an interpreter again. -/
def interpreterDepth : Nat := 5

/-- What is run in place of a program, under which path and with which arguments: an
interpreter is given its argument, the path of the script and the script's arguments. -/
def interpreted (tree : FileTree) (directory : Place) :
    (depth : Nat) → (path : String) → Program → (arguments : List String) →
      Except FileFault (Program × String × List String)
  | depth, path, .file content, arguments =>
    match interpreter? content with
    | none => .error .badFormat
    | some (interpreter, argument) => do
      let runner ← programAtPath tree directory interpreter
      match depth with
      | 0 => .error .tooManyLinks
      | depth + 1 =>
        interpreted tree directory depth interpreter runner (argument.toList ++ path :: arguments)
  | _, path, program, arguments => .ok (program, path, arguments)

/-- Finds the program with a name, and what is run in its place.  A file that has no
interpreter is left to the shell. -/
def findRunner (tree : FileTree) (directory : Place) (searchPath : Option String) (name : String)
    (arguments : List String) : Except FileFault (Program × String × List String) := do
  let (path, program) ← findProgram tree directory searchPath name
  match interpreted tree directory interpreterDepth path program arguments with
  | .error .badFormat => .ok (program, path, arguments)
  | found => found

end MockServer.Shell
