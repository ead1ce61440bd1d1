/-
Running a tool.

A tool is started once, in a directory and with variables set over the inherited
environment.  Its outcome is that it was not started, or its exit code with all that it
wrote on one stream: the output of a success, the errors of anything else.  Main
statement: `Outcome.ofPieces_eq` — the outcome depends on the whole streams only, not
on the pieces in which they were read.
-/
import MockServer.Machine
import MockServer.Text.Bytes
import MockServer.Text.Quoted

namespace MockServer.Build

/-- How the run of a tool ended. -/
inductive Outcome where
  | succeeded (output : String)
  | exited (code : Option Int) (errors : String)
  | notStarted (reason : String)
  deriving DecidableEq, Repr

/-- Everything that was read from a stream. -/
def collected (stream : Stream) (pieces : List Piece) : List UInt8 :=
  (pieces.filter (·.stream = stream)).flatMap (·.bytes)

namespace Outcome

/-- Did the tool succeed? -/
def isSuccess : Outcome → Bool
  | .succeeded _ => true
  | _ => false

/-- The outcome of a tool that wrote some bytes on its two streams and ended. -/
def ofStreams (output errors : List UInt8) (code : Option Int) : Outcome :=
  if code = some 0 then .succeeded (Text.decodeLossy output)
  else .exited code (Text.decodeLossy errors)

/-- The outcome of a tool that was read in pieces. -/
def ofPieces (pieces : List Piece) (code : Option Int) : Outcome :=
  ofStreams (collected .output pieces) (collected .errors pieces) code

/-- The outcome of a behaviour. -/
def ofBehaviour : Behaviour → Outcome
  | .notStarted reason => .notStarted reason
  | .ended pieces code => ofPieces pieces code

/-- The outcome depends on the whole streams only. -/
theorem ofPieces_eq {pieces others : List Piece} (code : Option Int)
    (hout : collected .output pieces = collected .output others)
    (herr : collected .errors pieces = collected .errors others) :
    ofPieces pieces code = ofPieces others code := by
  rw [ofPieces, ofPieces, hout, herr]

end Outcome

namespace Tool

/-- The part of the program that speaks here. -/
def target : String := "mocksmith::build::process"

/-- What the start of a tool tells. -/
def starting (launch : Launch) : Log.Event :=
  ⟨.debug, target, "Starting tool",
    [("program", .shown launch.program), ("args", .shown (Text.quotedArguments launch.arguments)),
      ("cwd", .shown launch.directory)]⟩

/-- What the reading of a piece tells. -/
def readPiece (piece : Piece) : Log.Event :=
  ⟨.trace, target, "Tool output",
    [("stream", .quoted piece.stream.name), ("bytes", .count piece.bytes.length)]⟩

/-- What the behaviour of a tool tells. -/
def heard : Behaviour → List Log.Event
  | .notStarted _ => []
  | .ended pieces _ => pieces.map readPiece

/-- The start of a tool with variables set over the inherited ones. -/
def launchOf (setting : Setting) (program : String) (arguments : List String) (directory : String)
    (added : Environment) : Launch :=
  ⟨program, arguments, setting.directory, directory, setting.environment.layered added⟩

/-- Runs a tool. -/
def run {ε : Type} (tools : Launcher) (launch : Launch) : Task ε Outcome := do
  Task.tell (starting launch)
  let behaviour ← Task.launch tools launch
  Task.tellAll (heard behaviour)
  pure (.ofBehaviour behaviour)

end Tool
end MockServer.Build
