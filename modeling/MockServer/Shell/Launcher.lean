/-
Tools that are scripts.

`launcher` is a machine on which tools are shell scripts and utilities.  A tool is found
as any program is; a file is run by the interpreter that its first line names.

This stands for the machine on which tools are started; the program has no such code, and what is
proved of builds holds for every `Launcher`.
-/
import MockServer.Shell.Run

namespace MockServer.Shell

/-- How many steps a tool may take. -/
def steps : Nat := 200000

/-- Does a text hold a character that cannot be handed to a program? -/
def holdsNul (text : String) : Bool :=
  text.toList.contains '\x00'

/-- The directory in which a tool starts. -/
def startPlace (launch : Launch) (tree : FileTree) : Except FileFault Place :=
  match tree.find launch.origin launch.directory with
  | .ok (place, .directory) => .ok place
  | .ok (_, .file _ _) => .error .notDirectory
  | .error fault => .error fault

/-- The start of a tool, up to the program that is run. -/
def start (launch : Launch) (tree : FileTree) :
    Except FileFault (Place × Program × String × List String) := do
  if holdsNul launch.program || launch.arguments.any holdsNul || holdsNul launch.directory
      || launch.environment.any (fun v => holdsNul v.1 || holdsNul v.2) then
    .error .nulInArgument
  let place ← startPlace launch tree
  let (path, program) ← findProgram tree place
    ((launch.environment.get? "PATH").or (some "/bin:/usr/bin")) launch.program
  let (runner, name, arguments) ←
    interpreted tree place interpreterDepth path program launch.arguments
  .ok (place, runner, name, arguments)

/-- The state in which a tool starts. -/
def initial (tree : FileTree) (place : Place) (name : String) (environment : Environment) :
    State where
  tree := tree
  place := place
  name := name
  arguments := []
  environment
  status := 0
  pieces := []
  buffers := []

/-- The streams of a tool; nothing can be read. -/
def toolStreams : Streams :=
  ⟨[], .stream .output, .stream .errors⟩

/-- The most bytes of a piece. -/
def pieceSize : Nat := 4096

/-- Cuts a piece into pieces of a bounded size. -/
def cut (piece : Piece) : List Piece :=
  (List.range ((piece.bytes.length + pieceSize - 1) / pieceSize)).map fun n =>
    ⟨piece.stream, (piece.bytes.drop (n * pieceSize)).take pieceSize⟩

/-- How tools behave that are scripts. -/
def launcher : Launcher := fun launch tree =>
  match start launch tree with
  | .error fault => (.notStarted fault.message, tree)
  | .ok (place, program, name, arguments) =>
    let (flow, state) := runProgram steps program name arguments toolStreams
      (initial tree place name launch.environment)
    let code := if flow = .killed then none else some (state.status : Int)
    (.ended (state.pieces.reverse.flatMap cut) code, state.tree)

end MockServer.Shell
