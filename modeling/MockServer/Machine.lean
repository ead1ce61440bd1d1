/-
The machine on which a task runs.

A task reads and changes the files of the machine, tells log events, starts tools, asks
its user and prints.  What it changes is a value: the tree of files, with the record of
everything that was told, started, asked and printed, in order.  How a tool behaves and
what a user answers are parameters, a `Launcher` and a `Prompt`.  Main statement:
`tell_run` — telling an event adds it to the record and changes nothing else.
-/
import MockServer.FileTree.Operations
import MockServer.Log.Event

namespace MockServer

/-- A variable's name and value, in order. -/
abbrev Environment := List (String × String)

namespace Environment

/-- The value of a variable. -/
def get? (environment : Environment) (name : String) : Option String :=
  (environment.find? (·.1 == name)).map Prod.snd

/-- Sets a variable, in place where it is set already. -/
def set (environment : Environment) (name value : String) : Environment :=
  match environment with
  | [] => [(name, value)]
  | (n, v) :: rest => if n = name then (n, value) :: rest else (n, v) :: set rest name value

/-- The environment with some variables set over it. -/
def layered (environment added : Environment) : Environment :=
  added.foldl (fun e v => e.set v.1 v.2) environment

theorem get?_set_self (environment : Environment) (name value : String) :
    (environment.set name value).get? name = some value := by
  induction environment with
  | nil => simp [set, get?]
  | cons v rest ih =>
    simp only [get?] at ih ⊢
    by_cases h : v.1 = name <;> simp [set, h, ih]

theorem get?_set_of_ne (environment : Environment) {name other : String} (h : other ≠ name)
    (value : String) : (environment.set name value).get? other = environment.get? other := by
  induction environment with
  | nil => simp [set, get?, Ne.symm h]
  | cons v rest ih =>
    simp only [get?] at ih ⊢
    by_cases hn : v.1 = name
    · simp [set, hn, Ne.symm h]
    · by_cases ho : v.1 = other
      · simp [set, ho, h]
      · simp [set, hn, ho, ih]

end Environment

/-- What no task changes: the working directory, the environment, the directory of the program
itself where it is known, and what is drawn for names at random, one after the other. -/
structure Setting where
  directory : Place
  environment : Environment
  programDirectory : Option String
  draw : Nat → String

/-- The working directory as a path. -/
def Setting.directoryPath (setting : Setting) : String :=
  "/" ++ "/".intercalate setting.directory

/-- The directory for files that are soon removed. -/
def Setting.temporaryDirectory (setting : Setting) : String :=
  (setting.environment.get? "TMPDIR").getD "/tmp"

/-! ### Tools -/

/-- The two streams on which a tool writes. -/
inductive Stream where
  | output
  | errors
  deriving DecidableEq, Repr

/-- The name of a stream. -/
def Stream.name : Stream → String
  | .output => "stdout"
  | .errors => "stderr"

/-- A piece of a stream as it was read. -/
structure Piece where
  stream : Stream
  bytes : List UInt8

/-- The start of a tool: its arguments, the environment that it sees, and its working
directory, a path from the origin. -/
structure Launch where
  program : String
  arguments : List String
  origin : Place
  directory : String
  environment : Environment

/-- How a tool that was to be started behaved: why it was not started, or what was read from
it and its exit code, which a tool that was ended by a signal has not. -/
inductive Behaviour where
  | notStarted (reason : String)
  | ended (pieces : List Piece) (code : Option Int)

/-- How tools behave on a tree of files, and what they make of it. -/
abbrev Launcher := Launch → FileTree → Behaviour × FileTree

/-! ### Tasks -/

/-- A name that a user was offered, with the number of events that had been told before. -/
structure Offer where
  name : String
  told : Nat
  deriving DecidableEq, Repr

/-- What tasks change: the files, and the record of the events that were told, of the tools
that were started, of the names that a user was offered and of what was printed. -/
structure Machine where
  tree : FileTree
  log : List Log.Event
  launches : List Launch
  offers : List Offer
  output : String

/-- A machine on which nothing has run. -/
def Machine.of (tree : FileTree) : Machine :=
  ⟨tree, [], [], [], ""⟩

/-- What a user who was offered a name answers, and what that tells. -/
structure Answer where
  destination : Option String
  events : List Log.Event

/-- A user who can be asked. -/
abbrev Prompt := String → Answer

/-- A user who always answers the same. -/
def Prompt.fixed (destination : String) : Prompt :=
  fun _ => ⟨some destination, []⟩

/-- A task that may fail. -/
abbrev Task (ε α : Type) := ExceptT ε (StateM Machine) α

namespace Task

variable {ε α : Type}

/-- Tells an event. -/
def tell (event : Log.Event) : Task ε Unit :=
  modify fun m => { m with log := m.log ++ [event] }

/-- Tells some events. -/
def tellAll (events : List Log.Event) : Task ε Unit :=
  modify fun m => { m with log := m.log ++ events }

/-- Offers a user a name. -/
def ask (prompt : Prompt) (name : String) : Task ε (Option String) := do
  modify fun m => { m with
    log := m.log ++ (prompt name).events
    offers := m.offers ++ [⟨name, m.log.length⟩] }
  pure (prompt name).destination

/-- Prints a text. -/
def print (text : String) : Task ε Unit :=
  modify fun m => { m with output := m.output ++ text }

/-- The tree of files. -/
def tree : Task ε FileTree :=
  return (← get).tree

/-- Puts another tree in place. -/
def setTree (tree : FileTree) : Task ε Unit :=
  modify fun m => { m with tree := tree }

/-- Does a change of the tree that may end in a fault. -/
def change (work : FileTree → FileTree.Changed) (fault : FileFault → ε) : Task ε Unit := do
  let (tree, result) := work (← Task.tree)
  setTree tree
  match result with
  | .ok () => pure ()
  | .error f => throw (fault f)

/-- Does a change of the tree that a fault leaves undone. -/
def changeWhole (work : FileTree → Except FileFault FileTree) (fault : FileFault → ε) :
    Task ε Unit := do
  match work (← Task.tree) with
  | .ok tree => setTree tree
  | .error f => throw (fault f)

/-- Starts a tool and records that. -/
def launch (tools : Launcher) (launch : Launch) : Task ε Behaviour := do
  let (behaviour, tree) := tools launch (← Task.tree)
  modify fun m => { m with tree := tree, launches := m.launches ++ [launch] }
  pure behaviour

/-- Telling an event adds it to the record and changes nothing else. -/
theorem tell_run (event : Log.Event) (m : Machine) :
    (tell event : Task ε Unit).run.run m =
      (.ok (), { m with log := m.log ++ [event] }) := rfl

end Task
end MockServer
