/-
Redirections.

A redirection opens a file for one stream of a command, or makes the stream go where
another one goes.  Redirections are made in order; the first one that fails ends the
command with a complaint.

This stands for the machine's shell, on which tools are started; the program has no such code.
-/
import MockServer.Shell.Expansion

namespace MockServer.Shell

/-- The reason that a file could not be made, as scripts complain of it. -/
def makingReason : FileFault → String
  | .notFound => "Directory nonexistent"
  | .notDirectory => "Directory nonexistent"
  | fault => fault.reason

/-- The reason that a file could not be opened, as scripts complain of it. -/
def openingReason : FileFault → String
  | .notFound => "No such file"
  | .notDirectory => "No such file"
  | fault => fault.reason

namespace Streams

/-- The streams with another sink under a number. -/
def withSink (streams : Streams) (descriptor : Nat) (sink : Sink) : Streams :=
  match descriptor with
  | 1 => { streams with output := sink }
  | 2 => { streams with errors := sink }
  | _ => streams

/-- The sink of a stream that is named by its number. -/
def sink? (streams : Streams) (number : String) : Option Sink :=
  match number with
  | "1" => some streams.output
  | "2" => some streams.errors
  | _ => none

/-- The sink that a device stands for. -/
def device? (streams : Streams) (path : String) : Option Sink :=
  match path with
  | "/dev/null" => some .nowhere
  | "/dev/stdout" => some streams.output
  | "/dev/stderr" => some streams.errors
  | _ => none

end Streams

namespace State

/-- Opens a file for writing, with what is in it or without. -/
def openFile (state : State) (path : String) (keep : Bool) : Except FileFault (State × Sink) := do
  -- A file that is kept need only be there; any other is made empty.
  let kept := keep && state.tree.isFile state.place path
  let tree ← if kept then pure state.tree else state.tree.write state.place path []
  let place ← tree.resolve state.place path
  .ok ({ state with tree := tree }, .file place)

end State

/-- Makes a redirection; gives the state after a complaint where it fails. -/
def redirectOne (sub : Substitute) (fuel line : Nat) (streams : Streams) (state : State)
    (redirection : Redirection) : Except State (Streams × State) :=
  let (text, state) := Expansion.wordText sub fuel redirection.target state
  let path := String.ofList text
  let opened (keep : Bool) : Except State (Streams × State) :=
    match streams.device? path with
    | some sink => .ok (streams.withSink redirection.descriptor sink, state)
    | none =>
      match state.openFile path keep with
      | .ok (state, sink) => .ok (streams.withSink redirection.descriptor sink, state)
      | .error fault => .error (state.complainAt streams line
          ("cannot create " ++ path ++ ": " ++ makingReason fault) 2)
  match redirection.direction with
  | .replacing => opened false
  | .behind => opened true
  | .duplicate =>
    match streams.sink? path with
    | some sink => .ok (streams.withSink redirection.descriptor sink, state)
    | none => .ok (streams, state)
  | .from =>
    if path = "/dev/null" then .ok ({ streams with input := [] }, state)
    else match state.tree.readBytes state.place path with
      | .ok bytes => .ok ({ streams with input := bytes }, state)
      | .error fault => .error (state.complainAt streams line
          ("cannot open " ++ path ++ ": " ++ openingReason fault) 2)

/-- Makes redirections in order. -/
def redirect (sub : Substitute) (fuel line : Nat) :
    List Redirection → Streams → State → Except State (Streams × State)
  | [], streams, state => .ok (streams, state)
  | redirection :: rest, streams, state =>
    match redirectOne sub fuel line streams state redirection with
    | .ok (streams, state) => redirect sub fuel line rest streams state
    | .error state => .error state

end MockServer.Shell
