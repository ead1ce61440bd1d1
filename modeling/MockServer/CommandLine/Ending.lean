/-
The whole program as a function.

A run reads its command line, does the command and ends with an exit code and what it
wrote: the printed output, and on the error stream the log, the question to the user and
the fault.  The code is 0 where the command succeeded or the user asked for help or the
version, 1 where it did not succeed, and 2 where the command line is mistaken.  Main
statements:

* `Ending.ofResult_code` — the code of a command is 0 if and only if it succeeded;
* `run_of_stop` — a run that reads no command changes no file.
-/
import MockServer.CommandLine.Execute
import MockServer.CommandLine.Help
import MockServer.CommandLine.Prompt
import MockServer.Log.Line

namespace MockServer.CommandLine

/-- How a run ends. -/
structure Ending where
  code : Nat
  output : String
  errors : String
  deriving DecidableEq, Repr

/-- How a run ends that does nothing. -/
def Ending.ofStop : Stop → Ending
  | .help scope => ⟨0, helpText scope, ""⟩
  | .version => ⟨0, versionLine, ""⟩
  | .mistake mistake => ⟨2, "", mistakeText mistake⟩

/-- What is written about a fault. -/
def faultLine [Yaml.Wording] (fault : Fault) : String :=
  "error: " ++ fault.message ++ "\n"

/-- How a run ends whose command gave a result, after some output and some texts in the log. -/
def Ending.ofResult [Yaml.Wording] (result : Except Fault Bool) (output log : String) : Ending :=
  match result with
  | .ok success => ⟨if success then 0 else 1, output, log⟩
  | .error fault => ⟨1, output, log ++ faultLine fault⟩

/-- The texts of the log with the questions between them, where some events were told
already. -/
def logTexts (entries : List Log.Event → List String) (told : Nat) (events : List Log.Event) :
    List Offer → List String
  | [] => entries events
  | offer :: rest =>
    entries (events.take (offer.told - told))
      ++ question offer.name :: logTexts entries offer.told (events.drop (offer.told - told)) rest

/-- The text of the log of a machine, as the environment sets it up. -/
def logText (setting : Setting) (time : String) (machine : Machine) : String :=
  let lookup := setting.environment.get?
  let setup := Log.Setup.ofLookup lookup
  String.join
    (logTexts (setup.entries (setup.filter lookup) time) 0 machine.log machine.offers)

/-- Runs the program on the words of a command line and an input; gives the files that it
leaves. -/
def run [Yaml.Wording] (tools : Launcher) (setting : Setting) (host : Host) (time : String)
    (words : List String) (input : List UInt8) (tree : FileTree) : Ending × FileTree :=
  match read words with
  | .error stop => (.ofStop stop, tree)
  | .ok invocation =>
    let (result, machine) :=
      (execute tools setting host (promptOn input) invocation).run.run (.of tree)
    (.ofResult result machine.output (logText setting time machine), machine.tree)

/-! ### Laws -/

/-- The code of a command is 0 if and only if it succeeded. -/
theorem Ending.ofResult_code [Yaml.Wording] (result : Except Fault Bool) (output log : String) :
    (ofResult result output log).code = 0 ↔ result = .ok true := by
  rcases result with fault | _ | _ <;> simp [ofResult]

/-- A run that reads no command changes no file. -/
theorem run_of_stop [Yaml.Wording] {words : List String} {stop : Stop}
    (h : read words = .error stop) (tools : Launcher) (setting : Setting) (host : Host)
    (time : String) (input : List UInt8) (tree : FileTree) :
    run tools setting host time words input tree = (.ofStop stop, tree) := by
  simp [run, h]

end MockServer.CommandLine
