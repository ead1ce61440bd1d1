/-
The state of a running script.

A script writes to sinks: the streams of the whole tool, files, or buffers from which
another command reads.  What was written to the tool's streams is kept in pieces, in
order.

This stands for the machine's shell, on which tools are started; the program has no such code.
-/
import MockServer.Machine
import MockServer.Number.Digits
import MockServer.Text.Bytes

namespace MockServer.Shell

/-- Where something is written. -/
inductive Sink where
  | stream (stream : Stream)
  | file (place : Place)
  | buffer (n : Nat)
  | nowhere

/-- What a command reads and where it writes. -/
structure Streams where
  input : List UInt8
  output : Sink
  errors : Sink

/-- The state of a script. -/
structure State where
  tree : FileTree
  place : Place
  name : String
  arguments : List String
  environment : Environment
  status : Nat
  pieces : List Piece
  buffers : List (List UInt8)

/-- How the run of a command ended: it went on to the next, or it ended the script, by itself or
by a signal. -/
inductive Flow where
  | next
  | exit
  | killed
  deriving DecidableEq, Repr

namespace State

/-- Writes some bytes; the pieces are kept with the last one in front. -/
def put (state : State) (sink : Sink) (bytes : List UInt8) : State :=
  if bytes = [] then state
  else match sink with
    | .stream stream => { state with pieces := ⟨stream, bytes⟩ :: state.pieces }
    | .file place =>
      match state.tree.at? place with
      | some (.file content executable) =>
        { state with tree := state.tree.set place (.file (content ++ bytes) executable) }
      | _ => state
    | .buffer n => { state with buffers := state.buffers.modify n (· ++ bytes) }
    | .nowhere => state

/-- Writes a text. -/
def putText (state : State) (sink : Sink) (text : String) : State :=
  state.put sink (Text.encode text)

/-- Sets the status of the last command. -/
def ended (state : State) (status : Nat) : State :=
  { state with status := status }

/-- Sets a variable. -/
def set (state : State) (name value : String) : State :=
  { state with environment := state.environment.set name value }

/-- Ends a command with a complaint on its error stream. -/
def complain (state : State) (streams : Streams) (text : String) (status : Nat) : State :=
  (state.putText streams.errors (text ++ "\n")).ended status

/-- Ends a command with a complaint of the script itself. -/
def complainAt (state : State) (streams : Streams) (line : Nat) (text : String) (status : Nat) :
    State :=
  state.complain streams
    (state.name ++ ": " ++ String.ofList (Number.digits line) ++ ": " ++ text) status

/-- Opens a buffer at the end of those there are. -/
def openBuffer (state : State) : State × Nat :=
  ({ state with buffers := state.buffers ++ [[]] }, state.buffers.length)

/-- What a buffer holds. -/
def buffered (state : State) (n : Nat) : List UInt8 :=
  state.buffers.getD n []

/-- Closes a buffer and those behind it. -/
def closeBuffer (state : State) (n : Nat) : State :=
  { state with buffers := state.buffers.take n }

/-- The value of a parameter. -/
def parameter? (state : State) (name : String) : Option String :=
  match name with
  | "#" => some (String.ofList (Number.digits state.arguments.length))
  | "?" => some (String.ofList (Number.digits state.status))
  | "$" => some "4711"
  | "@" => some (" ".intercalate state.arguments)
  | "*" => some (" ".intercalate state.arguments)
  | "0" => some state.name
  | _ =>
    if name.toList.all Char.isDigit then
      state.arguments[Number.number name.toList - 1]?
    else state.environment.get? name

end State
end MockServer.Shell
