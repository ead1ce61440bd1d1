/-
Running scripts.

`run` goes through a command and gives the state behind it.  It is given how many more
steps may follow, which bounds loops and nesting; a script that needs more ends as if a
signal had ended it.

This stands for the machine's shell, on which tools are started; the program has no such code.
-/
import MockServer.Shell.Lookup
import MockServer.Shell.Redirect

namespace MockServer.Shell

namespace State

/-- Goes back to the variables, arguments and directory of another state. -/
def restored (state before : State) : State :=
  { state with
    place := before.place
    name := before.name
    arguments := before.arguments
    environment := before.environment }

/-- Sets variables by assignments that stand in arguments. -/
def assign (state : State) (assignments : List String) : State :=
  assignments.foldl (fun state text =>
    let name := text.toList.takeWhile (· ≠ '=')
    let value := String.ofList (text.toList.drop (name.length + 1))
    if text.toList.contains '=' then state.set (String.ofList name) value else state)
    (state.ended 0)

/-- Goes to a place; scripts are told of it by a variable. -/
def goTo (state : State) (place : Place) : State :=
  { state.set "PWD" ("/" ++ "/".intercalate place) with place := place }

/-- Drops arguments of the script. -/
def shift (state : State) (count : Nat) : State :=
  { state with arguments := state.arguments.drop count, status := 0 }

end State

/-- The flow behind a command that ran apart from its script: only a signal ends both. -/
def Flow.outside : Flow → Flow
  | .killed => .killed
  | _ => .next

/-- Commands whose failed redirection ends the script. -/
def isSpecialCommand (name : String) : Bool :=
  [":", "exec", "exit", "export", "shift"].contains name

/-- The reason that a program cannot be run, as scripts complain of it. -/
def missingReason : FileFault → String
  | .notFound => "not found"
  | .notDirectory => "not found"
  | fault => fault.reason

/-- The status of a command whose program cannot be run. -/
def missingStatus : FileFault → Nat
  | .notFound => 127
  | .notDirectory => 127
  | .nameTooLong => 127
  | .tooManyLinks => 127
  | _ => 126

/-- The exit status of a number. -/
def statusOf (n : Int) : Nat :=
  (n % 256).toNat

/-- Ends the script itself by a signal, or complains. -/
def kill (arguments : List String) (streams : Streams) (line : Nat) (state : State) :
    Flow × State :=
  if arguments.getLast? = state.parameter? "$" then (.killed, state)
  else (.next, state.complainAt streams line "kill: No such process" 1)

/-- Ends the script with the status of an argument. -/
def leave (arguments : List String) (streams : Streams) (line : Nat) (state : State) :
    Flow × State :=
  match arguments with
  | [] => (.exit, state)
  | text :: _ =>
    match Arithmetic.integer? text.toList with
    | some n =>
      if n < 0 then (.exit, state.complainAt streams line ("exit: Illegal number: " ++ text) 2)
      else (.exit, state.ended (statusOf n))
    | none => (.exit, state.complainAt streams line ("exit: Illegal number: " ++ text) 2)

/-- Goes to another directory. -/
def changeDirectory (arguments : List String) (streams : Streams) (line : Nat) (state : State) :
    State :=
  let path := arguments.headD ((state.environment.get? "HOME").getD "")
  match state.tree.find state.place path with
  | .ok (place, .directory) => (state.goTo place).ended 0
  | _ => state.complainAt streams line ("cd: can't cd to " ++ path) 2

/-- A command of the shell itself that needs no other command; `none` if it is no such. -/
def ownCommand? (name : String) (arguments : List String) (streams : Streams) (line : Nat)
    (state : State) : Option (Flow × State) :=
  match name with
  | ":" => some (.next, state.ended 0)
  | "exit" => some (leave arguments streams line state)
  | "kill" => some (kill arguments streams line state)
  | "cd" => some (.next, changeDirectory arguments streams line state)
  | "export" => some (.next, state.assign arguments)
  | "shift" => some (.next, state.shift (Number.number (arguments.headD "1").toList))
  | "echo" => some (.next, (state.put streams.output (Printing.echo arguments)).ended 0)
  | "printf" => some (.next, Utility.printf arguments streams state)
  | "pwd" => some (.next, Utility.pwd arguments streams state)
  | "true" => some (.next, state.ended 0)
  | "false" => some (.next, state.ended 1)
  | "test" => some (.next, test arguments)
  | "[" =>
    if arguments.getLast? = some "]" then some (.next, test arguments.dropLast)
    else some (.next, state.complainAt streams line "[: missing ]" 2)
  | _ => none
where
  /-- Tests a condition. -/
  test (arguments : List String) : State :=
    match Utility.condition state.tree state.place arguments with
    | .ok value => state.ended (if value then 0 else 1)
    | .error text => state.complainAt streams line (name ++ ": " ++ text) 2

/-- The text of the output of a command, without line ends behind it. -/
def outputText (bytes : List UInt8) : List Char :=
  ((Text.decodeLossy bytes).toList.reverse.dropWhile (· = '\n')).reverse

/-- What a command comes to that goes on where the one before it did not end the script. -/
def behind (ran : Flow × State) (next : State → Flow × State) : Flow × State :=
  match ran with
  | (.next, state) => next state
  | ended => ended

mutual

/-- Runs a command. -/
def run : (fuel : Nat) → Command → Streams → State → Flow × State
  | 0, _, _, state => (.killed, state)
  | fuel + 1, command, streams, state =>
    match command with
    | .nothing => (.next, state)
    | .simple simple => runSimple fuel simple streams state
    | .sequence first second =>
      behind (run fuel first streams state) fun state => run fuel second streams state
    | .both first second =>
      behind (run fuel first streams state) fun state =>
        if state.status = 0 then run fuel second streams state else (.next, state)
    | .either first second =>
      behind (run fuel first streams state) fun state =>
        if state.status = 0 then (.next, state) else run fuel second streams state
    | .pipe first second =>
      -- The first command writes all its output before the second one reads it.
      let (opened, n) := state.openBuffer
      let (flow, filled) := run fuel first { streams with output := .buffer n } opened
      if flow = .killed then (.killed, filled)
      else
        let input := filled.buffered n
        let (flow, last) :=
          run fuel second { streams with input := input } ((filled.closeBuffer n).restored state)
        (flow.outside, last.restored state)
    | .apart body =>
      let (flow, inner) := run fuel body streams state
      -- Only files, output and status are left of what ran apart.
      (flow.outside, inner.restored state)
    | .redirected line body redirections =>
      match redirect (substitute fuel streams) fuel line redirections streams state with
      | .ok (streams, state) => run fuel body streams state
      | .error state => (.next, state)
    | .branch test yes no =>
      behind (run fuel test streams state) fun state =>
        if state.status = 0 then run fuel yes streams state else run fuel no streams (state.ended 0)
    | .loop test body => runLoop fuel test body 0 streams state
    | .each name items body =>
      let (values, state) := Expansion.arguments (substitute fuel streams) fuel items state
      runEach fuel name values body streams (state.ended 0)
    | .choice subject cases =>
      let (text, state) := Expansion.wordText (substitute fuel streams) fuel subject state
      runChoice fuel text cases streams state

/-- Runs a loop; the status is that of the last round. -/
def runLoop : (fuel : Nat) → Command → Command → Nat → Streams → State → Flow × State
  | 0, _, _, _, _, state => (.killed, state)
  | fuel + 1, test, body, status, streams, state =>
    behind (run fuel test streams state) fun state =>
      if state.status = 0 then behind (run fuel body streams state) fun state =>
        runLoop fuel test body state.status streams state
      else (.next, state.ended status)

/-- Runs the rounds of a loop over values. -/
def runEach : (fuel : Nat) → String → List String → Command → Streams → State → Flow × State
  | 0, _, _, _, _, state => (.killed, state)
  | _ + 1, _, [], _, _, state => (.next, state)
  | fuel + 1, name, value :: rest, body, streams, state =>
    behind (run fuel body streams (state.set name value)) fun state =>
      runEach fuel name rest body streams state

/-- Runs the first case with a pattern that matches. -/
def runChoice : (fuel : Nat) → List Char → List (List Word × Command) → Streams → State →
    Flow × State
  | 0, _, _, _, state => (.killed, state)
  | _ + 1, _, [], _, state => (.next, state.ended 0)
  | fuel + 1, text, (patterns, body) :: rest, streams, state =>
    let (matched, state) :=
      Expansion.matchesAny (substitute fuel streams) fuel text patterns state
    if matched then run fuel body streams (state.ended 0)
    else runChoice fuel text rest streams state

/-- Gets the output of a command. -/
def substitute : (fuel : Nat) → Streams → Substitute
  | 0, _, _, state => ([], state)
  | fuel + 1, streams, text, state =>
    match Command.ofText? text with
    | none => ([], state.ended 2)
    | some command =>
      let (opened, n) := state.openBuffer
      let (_, inner) := run fuel command { streams with output := .buffer n } opened
      (outputText (inner.buffered n), (inner.closeBuffer n).restored state)

/-- Runs a simple command. -/
def runSimple : (fuel : Nat) → Simple → Streams → State → Flow × State
  | 0, _, _, state => (.killed, state)
  | fuel + 1, simple, streams, state =>
    let sub := substitute fuel streams
    let (words, state) := Expansion.arguments sub fuel simple.words state
    match redirect sub fuel simple.line simple.redirections streams state with
    | .error state =>
      -- A redirection that fails ends the script if it belongs to a command of the shell itself.
      if words.head?.any isSpecialCommand then (.exit, state) else (.next, state)
    | .ok (inner, state) =>
      let (assigned, state) := Expansion.assigned sub fuel simple.assignments state
      match words with
      | [] => (.next, assigned.ended (if simple.words = [] then 0 else state.status))
      | name :: arguments =>
        let (flow, last) := runNamed fuel name arguments simple.line inner assigned
        -- Assignments in front of a command hold for that command alone.
        (flow, if simple.assignments = [] then last
          else { last with environment := state.environment })

/-- Runs the command with a name. -/
def runNamed : (fuel : Nat) → String → List String → Nat → Streams → State → Flow × State
  | 0, _, _, _, _, state => (.killed, state)
  | fuel + 1, name, arguments, line, streams, state =>
    match ownCommand? name arguments streams line state with
    | some ended => ended
    | none =>
      match name, arguments with
      | "exec", command :: rest =>
        let (flow, state) := runNamed fuel command rest line streams state
        (if flow = .killed then .killed else .exit, state)
      | _, _ =>
        match findRunner state.tree state.place (state.environment.get? "PATH") name arguments with
        | .ok (program, path, arguments) =>
          let (flow, last) := runProgram fuel program path arguments streams state
          (flow.outside, last.restored state)
        | .error fault => (.next, state.complainAt streams line
            (name ++ ": " ++ missingReason fault) (missingStatus fault))

/-- Runs the text of a script. -/
def runText : (fuel : Nat) → List Char → Streams → State → Flow × State
  | 0, _, _, state => (.killed, state)
  | fuel + 1, text, streams, state =>
    match Command.ofText? text with
    | some command => run fuel command streams ((state.goTo state.place).ended 0)
    -- Nothing of a text is run that cannot be read as a whole.
    | none => (.exit, state.complainAt streams 1 "Syntax error" 2)

/-- Runs a program in a state of its own. -/
def runProgram : (fuel : Nat) → Program → String → List String → Streams → State → Flow × State
  | 0, _, _, _, _, state => (.killed, state)
  | fuel + 1, program, path, arguments, streams, state =>
    match program with
    | .utility work => (.next, work arguments streams state)
    | .file content =>
      runText fuel (Text.decodeLossy content).toList streams
        { state with name := path, arguments := arguments }
    | .shell =>
      match arguments with
      | "-c" :: text :: rest =>
        runText fuel text.toList streams
          { state with name := rest.headD path, arguments := rest.tail }
      | file :: rest =>
        match state.tree.readBytes state.place file with
        | .ok bytes => runText fuel (Text.decodeLossy bytes).toList streams
            { state with name := file, arguments := rest }
        | .error fault => (.next, state.complain streams
            (path ++ ": 0: cannot open " ++ file ++ ": " ++ openingReason fault) 2)
      | [] => runText fuel (Text.decodeLossy streams.input).toList streams
          { state with name := path, arguments := [] }
    | .environment =>
      let assignments := arguments.takeWhile fun a => a.toList.contains '='
      match arguments.drop assignments.length with
      | [] => (.next, state.environment.foldl (fun state v =>
          state.putText streams.output (v.1 ++ "=" ++ v.2 ++ "\n")) (state.ended 0))
      | name :: rest =>
        match findRunner state.tree state.place (state.environment.get? "PATH") name rest with
        | .ok (program, path, rest) =>
          runProgram fuel program path rest streams (state.assign assignments)
        | .error fault => (.next, state.complain streams
            ("env: '" ++ name ++ "': " ++ fault.reason) (if fault = .notFound then 127 else 126))

end

end MockServer.Shell
