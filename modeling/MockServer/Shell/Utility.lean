/-
Utilities.

A utility works on the files and streams that it is given.  It goes through all of its
operands, complains about those that it cannot serve, and fails if there was one.

This stands for the machine's shell, on which tools are started; the program has no such code.
-/
import MockServer.Shell.Printing
import MockServer.Shell.State

namespace MockServer.Shell

/-- What a utility does with its arguments. -/
abbrev Utility := List String → Streams → State → State

namespace Utility

/-- A text between the quotation marks of complaints. -/
def named (text : String) : String :=
  "'" ++ text ++ "'"

/-- Is an argument an option? -/
def isOption (argument : String) : Bool :=
  argument.startsWith "-" && 1 < argument.length

/-- The letters of the options, and the operands. -/
def split : List String → List Char × List String
  | [] => ([], [])
  | "--" :: rest => ([], rest)
  | argument :: rest =>
    if isOption argument then (argument.toList.drop 1 ++ (split rest).1, (split rest).2)
    else ((split rest).1, argument :: (split rest).2)

/-- Does some work for every operand. -/
def forEach (operands : List String) (work : String → State → State) (state : State) : State :=
  operands.foldl (fun state operand => work operand state) (state.ended 0)

/-- Takes a changed tree, or complains. -/
def change (streams : Streams) (complaint : String) (state : State) :
    Except FileFault FileTree → State
  | .ok tree => { state with tree := tree }
  | .error fault => state.complain streams (complaint ++ ": " ++ fault.reason) 1

/-- The bytes of an operand; a dash stands for the input. -/
def bytesOf (streams : Streams) (state : State) (operand : String) :
    Except FileFault (List UInt8) :=
  if operand = "-" then .ok streams.input
  else if operand = "/dev/null" then .ok []
  else state.tree.readBytes state.place operand

/-- Works on the bytes of every operand, or of the input where there is none. -/
def forBytes (name : String) (operands : List String) (streams : Streams)
    (work : String → List UInt8 → State → State) (state : State) : State :=
  forEach (if operands = [] then ["-"] else operands) (fun operand state =>
    match bytesOf streams state operand with
    | .ok bytes => work operand bytes state
    | .error fault =>
      state.complain streams (name ++ ": " ++ operand ++ ": " ++ fault.reason) 1) state

/-! ### Text -/

/-- Writes its operands one behind the other. -/
def cat : Utility := fun arguments streams =>
  forBytes "cat" (split arguments).2 streams fun _ bytes state => state.put streams.output bytes

/-- The first lines of some bytes. -/
def firstLines : (count : Nat) → List UInt8 → List UInt8
  | 0, _ => []
  | _ + 1, [] => []
  | count + 1, b :: rest =>
    if b = 10 then b :: firstLines count rest else b :: firstLines (count + 1) rest
termination_by count bytes => (bytes.length, count)

/-- Writes the beginning of its operands: as many bytes as are asked for, or ten lines. -/
def head : Utility := fun arguments streams =>
  match arguments with
  | "-c" :: count :: operands =>
    let count := Number.number count.toList
    -- The device gives as many zeros as are asked for.
    if operands = ["/dev/zero"] then fun state =>
      (state.put streams.output (List.replicate count 0)).ended 0
    else forBytes "head" operands streams fun _ bytes state =>
      state.put streams.output (bytes.take count)
  | "-n" :: count :: operands => forBytes "head" operands streams fun _ bytes state =>
      state.put streams.output (firstLines (Number.number count.toList) bytes)
  | _ => forBytes "head" arguments streams fun _ bytes state =>
      state.put streams.output (firstLines 10 bytes)

/-- The bytes of a set of characters. -/
def setOf : List Char → List UInt8
  | '\\' :: c :: rest =>
    let digits := Printing.octalAhead (c :: rest)
    if digits = [] then
      ((Printing.control? c).map ([·])).getD (Printing.bytesOf c) ++ setOf rest
    else Printing.octal digits :: setOf ((c :: rest).drop digits.length)
  | a :: '-' :: b :: rest =>
    (List.range (b.toNat + 1 - a.toNat)).map (fun n => UInt8.ofNat (a.toNat + n)) ++ setOf rest
  | c :: rest => Printing.bytesOf c ++ setOf rest
  | [] => []
termination_by s => s.length
decreasing_by all_goals simp_wf; try omega

/-- Puts the bytes of one set in place of those of another, or takes them away. -/
def tr : Utility := fun arguments streams state =>
  let (options, sets) := split arguments
  let written := match sets with
    | [first] => if options.contains 'd' then
        streams.input.filter fun b => !(setOf first.toList).contains b
      else streams.input
    | first :: second :: _ =>
      let before := setOf first.toList
      let behind := setOf second.toList
      streams.input.map fun b =>
        match before.idxOf? b with
        -- The last member of a shorter set stands for all that are missing.
        | some n => behind.getD n (behind.getLast?.getD b)
        | none => b
    | [] => streams.input
  (state.put streams.output written).ended 0

/-- Writes its arguments on a line as they are. -/
def echo : Utility := fun arguments streams state =>
  (state.putText streams.output (match arguments with
    | "-n" :: rest => " ".intercalate rest
    | _ => " ".intercalate arguments ++ "\n")).ended 0

/-! ### Files -/

/-- The names that a listing shows. -/
def visible (all : Bool) (names : List String) : List String :=
  (names.filter fun name => all || name.toList.head? ≠ some '.').mergeSort fun a b => a ≤ b

/-- Lists directories. -/
def ls : Utility := fun arguments streams state =>
  let (options, operands) := split arguments
  let paths := if operands = [] then ["."] else operands
  forEach paths (fun path state =>
    match state.tree.find state.place path with
    | .error fault =>
      state.complain streams ("ls: cannot access " ++ named path ++ ": " ++ fault.reason) 2
    | .ok (_, .file _ _) => state.putText streams.output (path ++ "\n")
    | .ok (place, .directory) =>
      let title := if paths.length = 1 then "" else path ++ ":\n"
      state.putText streams.output (title ++ String.join
        ((visible (options.contains 'a' || options.contains 'A') (state.tree.names place)).map
          (· ++ "\n")))) state

/-- Where a copy of a path goes: into a directory under its own name, or to the path itself. -/
def destination (state : State) (path target : String) : String :=
  if state.tree.isDirectory state.place target then
    Path.join target ((Path.fileName? path).getD path)
  else target

/-- Copies a file, with its mark for execution where the copy is new. -/
def copied (state : State) (content : List UInt8) (executable : Bool) (target : String) :
    Except FileFault FileTree :=
  if target = "/dev/null" then .ok state.tree
  else if state.tree.exists? state.place target then state.tree.write state.place target content
  else do
    let tree ← state.tree.write state.place target content
    if executable then tree.makeExecutable state.place target else .ok tree

/-- Copies files. -/
def cp : Utility := fun arguments streams state =>
  let operands := (split arguments).2
  match operands.getLast? with
  | none => state.complain streams "cp: missing file operand" 1
  | some target =>
    forEach operands.dropLast (fun path state =>
      match state.tree.find state.place path with
      | .error fault =>
        state.complain streams ("cp: cannot stat " ++ named path ++ ": " ++ fault.reason) 1
      | .ok (_, .directory) =>
        state.complain streams ("cp: -r not specified; omitting directory " ++ named path) 1
      | .ok (_, .file content executable) =>
        let target := destination state path target
        change streams ("cp: cannot create regular file " ++ named target) state
          (copied state content executable target)) state

/-- Removes files, and directories if asked. -/
def rm : Utility := fun arguments streams =>
  let (options, operands) := split arguments
  forEach operands fun path state =>
    match state.tree.find state.place path with
    | .ok (place, .file _ _) => { state with tree := state.tree.remove place }
    | .ok (place, .directory) =>
      if options.contains 'r' || options.contains 'R' then
        { state with tree := state.tree.remove place }
      else state.complain streams ("rm: cannot remove " ++ named path ++ ": Is a directory") 1
    | .error fault =>
      if options.contains 'f' then state
      else state.complain streams ("rm: cannot remove " ++ named path ++ ": " ++ fault.reason) 1

/-- Makes directories, with those above them if asked. -/
def mkdir : Utility := fun arguments streams =>
  let (options, operands) := split arguments
  forEach operands fun path state =>
    let complaint := "mkdir: cannot create directory " ++ named path
    if options.contains 'p' then
      match state.tree.makeDirectories state.place path with
      | (tree, .ok ()) => { state with tree := tree }
      | (tree, .error fault) =>
        { state with tree := tree }.complain streams (complaint ++ ": " ++ fault.reason) 1
    else change streams complaint state (state.tree.makeDirectory state.place path)

/-- Makes files that are missing. -/
def touch : Utility := fun arguments streams =>
  forEach (split arguments).2 fun path state =>
    if state.tree.exists? state.place path then state
    else change streams ("touch: cannot touch " ++ named path) state
      (state.tree.write state.place path [])

/-- Does a mode let everyone execute? -/
def lets (mode : String) : Bool :=
  if mode.toList.all Char.isDigit then
    (mode.toList.reverse.take 3).all fun c => (c.toNat - '0'.toNat) % 2 = 1
  else mode.contains '+' && mode.contains 'x'

/-- Marks files for execution, or takes the mark away. -/
def chmod : Utility := fun arguments streams state =>
  match arguments with
  | mode :: operands =>
    forEach operands (fun path state =>
      match state.tree.find state.place path with
      | .ok (place, .file content _) =>
        { state with tree := state.tree.set place (.file content (lets mode)) }
      | .ok (_, .directory) => state
      | .error fault => state.complain streams
          ("chmod: cannot access " ++ named path ++ ": " ++ fault.reason) 1) state
  | [] => state.complain streams "chmod: missing operand" 1

/-! ### Paths -/

/-- Writes the working directory. -/
def pwd : Utility := fun _ streams state =>
  (state.putText streams.output ("/" ++ "/".intercalate state.place ++ "\n")).ended 0

/-- Fills a form. -/
def printf : Utility := fun arguments streams state =>
  match arguments with
  | form :: rest => (state.put streams.output (Printing.printf form rest)).ended 0
  | [] => state.complain streams "printf: usage: printf format [arg ...]" 2

/-! ### Conditions -/

/-- A test of one thing. -/
def one? (tree : FileTree) (place : Place) (operator argument : String) : Option Bool :=
  match operator with
  | "-n" => some (argument ≠ "")
  | "-z" => some (argument = "")
  | "-f" => some (tree.isFile place argument)
  | "-d" => some (tree.isDirectory place argument)
  | "-e" => some (tree.exists? place argument)
  | "-s" => some (match tree.find place argument with
    | .ok (_, .file content _) => content ≠ []
    | .ok (_, .directory) => true
    | .error _ => false)
  | "-x" => some (match tree.find place argument with
    | .ok (_, .file _ executable) => executable
    | .ok (_, .directory) => true
    | .error _ => false)
  | _ => none

/-- The number in a comparison, or a complaint. -/
def number (text : String) : Except String Int :=
  match Arithmetic.integer? (Arithmetic.skip text.toList) with
  | some n => .ok n
  | none => .error ("Illegal number: " ++ text)

/-- A comparison of numbers. -/
def compared (a b : String) (holds : Int → Int → Bool) : Except String Bool := do
  return holds (← number a) (← number b)

/-- A comparison. -/
def two (a operator b : String) : Except String Bool :=
  match operator with
  | "=" => .ok (a = b)
  | "!=" => .ok (a ≠ b)
  | "-eq" => compared a b (· == ·)
  | "-ne" => compared a b (· != ·)
  | "-lt" => compared a b (· < ·)
  | "-le" => compared a b (· ≤ ·)
  | "-gt" => compared a b fun x y => y < x
  | "-ge" => compared a b fun x y => y ≤ x
  | _ => .error (operator ++ ": unexpected operator")

/-- The value of a condition, or a complaint.  The number of its arguments says how it is
read. -/
def condition (tree : FileTree) (place : Place) : List String → Except String Bool
  | [] => .ok false
  | [text] => .ok (text ≠ "")
  | "!" :: rest => (condition tree place rest).map (!·)
  | [operator, argument] =>
    match one? tree place operator argument with
    | some value => .ok value
    | none => .error (operator ++ ": unexpected operator")
  | [a, operator, b] => two a operator b
  | _ :: operator :: _ => .error (operator ++ ": unexpected operator")

/-- The utilities by name. -/
def all : List (String × Utility) :=
  [("cat", cat), ("head", head), ("tr", tr), ("echo", echo), ("ls", ls), ("cp", cp), ("rm", rm),
    ("mkdir", mkdir), ("touch", touch), ("chmod", chmod), ("pwd", pwd), ("printf", printf),
    ("true", fun _ _ state => state.ended 0), ("false", fun _ _ state => state.ended 1),
    ("sleep", fun _ _ state => state.ended 0)]

/-- The utility with a name. -/
def ofName? (name : String) : Option Utility :=
  (all.find? (·.1 == name)).map Prod.snd

end Utility
end MockServer.Shell
