/-
What the program says about itself.

A text of help names a command's parameters; a mistake in a command line is worded in one
line.
-/
import MockServer.CommandLine.Arguments
import MockServer.Config.Basic

namespace MockServer.CommandLine

/-- The name of the program. -/
def programName : String := Config.applicationName

/-- The version of the program. -/
def programVersion : String := "0.1.0"

/-- The line that gives the version. -/
def versionLine : String :=
  programName ++ " " ++ programVersion ++ "\n"

/-! ### Help -/

/-- What a command does. -/
def Verb.purpose : Verb → String
  | .compile => "Write main.go and go.mod for a project into a directory"
  | .inspect => "Print the route table a project compiles to"
  | .build => "Cross-build the mock server into a native executable"

/-- What a parameter is for. -/
def Parameter.purpose : Parameter → String
  | .config => "Builder config file (default: ./mocksmith.toml when present)"
  | .project => "Project document (JSON or YAML)"
  | .directory => "Output directory for the Go module"
  | .force => "Overwrite existing files"
  | .output => "Executable path; prompts on stdin when omitted"
  | .system => "Target OS (default: host)"
  | .architecture => "Target architecture (default: host)"
  | .json => "Print the build report as JSON"
  | .help => "Print help"
  | .version => "Print version"

/-- A parameter as it is written on a command line. -/
def Parameter.usage (parameter : Parameter) : String :=
  (match parameter.letter? with
    | some letter => String.ofList ['-', letter] ++ ", "
    | none => "    ")
    ++ "--" ++ parameter.name
    ++ if parameter.takesValue then " <" ++ parameter.name.toUpper ++ ">" else ""

/-- A line of help: something with its purpose. -/
def helpLine (thing purpose : String) : String :=
  "  " ++ thing ++ String.ofList (List.replicate (24 - thing.length) ' ') ++ "  " ++ purpose ++ "\n"

/-- The lines of help on the parameters of a scope. -/
def parameterHelp (scope : Scope) : String :=
  "\nOptions:\n" ++ String.join (scope.parameters.map fun p => helpLine p.usage p.purpose)

/-- The text of help, on the program or on a command. -/
def helpText : Scope → String
  | none => "Compile endpoint definitions into a standalone mock server\n\nUsage: " ++ programName
      ++ " [OPTIONS] <COMMAND>\n\nCommands:\n"
      ++ String.join (Verb.all.map fun verb => helpLine verb.name verb.purpose)
      ++ helpLine helpWord "Print this message or the help of the given command"
      ++ parameterHelp none
  | some verb => verb.purpose ++ "\n\nUsage: " ++ programName ++ " " ++ verb.name ++ " [OPTIONS]\n"
      ++ parameterHelp (some verb)

/-! ### Mistakes -/

/-- The wording of a mistake. -/
def Mistake.message : Mistake → String
  | .unknownWord word => "unexpected argument '" ++ word ++ "' found"
  | .unknownCommand word => "unrecognized subcommand '" ++ word ++ "'"
  | .noCommand => "'" ++ programName ++ "' requires a subcommand but one was not provided"
  | .noWords => "no arguments were provided"
  | .noValue parameter => "a value is required for '--" ++ parameter.name
      ++ "' but none was supplied"
  | .wrongValue parameter value =>
    "invalid value '" ++ value ++ "' for '--" ++ parameter.name ++ "'"
  | .needlessValue parameter value => "unexpected value '" ++ value ++ "' for '--"
      ++ parameter.name ++ "' found"
  | .repeated parameter => "the argument '--" ++ parameter.name ++ "' cannot be used multiple times"
  | .missing parameters => "the following required arguments were not provided:"
      ++ String.join (parameters.map fun p => " --" ++ p.name)

/-- What is written about a mistake. -/
def mistakeText : Mistake → String
  | .noWords => helpText none
  | mistake => "error: " ++ mistake.message ++ "\n\nFor more information, try '--help'.\n"

end MockServer.CommandLine
