/-
The parameters of commands.

There are three commands, and every one takes the parameters of its own scope; a fourth
scope, in front of the command, has parameters too.  A parameter is named by a long name,
and some are named by a letter as well; it takes a value, or it is a mere flag.
-/
import MockServer.Platform

namespace MockServer.CommandLine

/-- What the program can be told to do. -/
inductive Verb where
  | compile
  | inspect
  | build
  deriving DecidableEq, Repr

/-- The word for a command. -/
def Verb.name : Verb → String
  | .compile => "compile"
  | .inspect => "inspect"
  | .build => "build"

/-- All commands. -/
def Verb.all : List Verb :=
  [.compile, .inspect, .build]

/-- The command for a word. -/
def Verb.ofName? (name : String) : Option Verb :=
  all.find? (·.name == name)

theorem Verb.ofName?_name (verb : Verb) : ofName? verb.name = some verb := by
  cases verb <;> decide

/-- What a word can set. -/
inductive Parameter where
  | config
  | project
  | directory
  | force
  | output
  | system
  | architecture
  | json
  | help
  | version
  deriving DecidableEq, Repr

namespace Parameter

/-- The long name of a parameter. -/
def name : Parameter → String
  | .config => "config"
  | .project => "project"
  | .directory => "out"
  | .force => "force"
  | .output => "output"
  | .system => "os"
  | .architecture => "arch"
  | .json => "json"
  | .help => "help"
  | .version => "version"

/-- The letter of a parameter. -/
def letter? : Parameter → Option Char
  | .project => some 'p'
  | .directory => some 'o'
  | .force => some 'f'
  | .output => some 'o'
  | .help => some 'h'
  | .version => some 'V'
  | .config | .system | .architecture | .json => none

/-- Does a parameter take a value? -/
def takesValue : Parameter → Bool
  | .config | .project | .directory | .output | .system | .architecture => true
  | .force | .json | .help | .version => false

/-- Can a parameter have a value?  A path has to have a character, and a system or an
architecture its name. -/
def accepts (parameter : Parameter) (value : String) : Bool :=
  match parameter with
  | .config | .project | .directory | .output => value != ""
  | .system => (OperatingSystem.ofName? value).isSome
  | .architecture => (Architecture.ofName? value).isSome
  | .force | .json | .help | .version => value == ""

end Parameter

/-- A scope: behind the word for a command, or in front of it. -/
abbrev Scope := Option Verb

namespace Scope

/-- The parameters of a scope. -/
def parameters : Scope → List Parameter
  | none => [.config, .help, .version]
  | some .compile => [.project, .directory, .force, .config, .help]
  | some .inspect => [.project, .config, .help]
  | some .build => [.project, .output, .system, .architecture, .json, .config, .help]

/-- The parameter of a scope with a long name. -/
def named? (scope : Scope) (name : String) : Option Parameter :=
  scope.parameters.find? (·.name == name)

/-- The parameter of a scope with a letter. -/
def lettered? (scope : Scope) (letter : Char) : Option Parameter :=
  scope.parameters.find? (·.letter? == some letter)

/-- Every parameter of a scope is found by its long name. -/
theorem named?_name {scope : Scope} {parameter : Parameter} (h : parameter ∈ scope.parameters) :
    scope.named? parameter.name = some parameter := by
  revert h
  rcases scope with _ | verb
  · cases parameter <;> decide
  · cases verb <;> cases parameter <;> decide

end Scope
end MockServer.CommandLine
