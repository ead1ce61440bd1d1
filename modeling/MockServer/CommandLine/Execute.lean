/-
Doing commands.

A command may end in a fault; without one it says whether it succeeded.  What it prints
stays printed when it ends in a fault.  A build that reports in JSON always prints exactly
one report, also where nothing could be loaded.  Main statement: `build_json_isOk` — such a build
ends in no fault.
-/
import MockServer.Build.Builder
import MockServer.CommandLine.Arguments
import MockServer.Project.Load
import MockServer.RouteTable.Listing

namespace MockServer.CommandLine

/-- Why a command ended. -/
inductive Fault where
  | config (fault : Config.LoadFault)
  | project (fault : Project.LoadFault)
  | program (fault : Program.WriteFault)

/-- The wording of a fault. -/
def Fault.message [Yaml.Wording] : Fault → String
  | .config fault => fault.message
  | .project fault => fault.message
  | .program fault => fault.message

/-! ### Printed lines -/

/-- The line of a refused endpoint. -/
def skippedLine (refusal : Refusal) : String :=
  "⚠️  Skipped " ++ refusal.method ++ " " ++ refusal.path ++ ": " ++ refusal.fault.message ++ "\n"

/-- The line of a written file. -/
def writtenLine (path : String) : String :=
  "✅ Wrote " ++ path ++ "\n"

/-- The line of a report for readers. -/
def reportLine : Build.Report → String
  | .ok product => "✅ Built " ++ product.path ++ " (serves on port "
      ++ String.ofList (Number.digits product.port) ++ " by default)\n"
  | .error .cancelled => "ℹ️  Build cancelled\n"
  | .error fault => "❌ Build failed: " ++ fault.message ++ "\n"

/-- The line of a report, in JSON where that is wanted. -/
def printedReport (json : Bool) (report : Build.Report) : String :=
  if json then report.toJson.text ++ "\n" else reportLine report

/-! ### Commands -/

/-- Writes the program of the project at a path into a directory. -/
def compile (setting : Setting) (path directory : String) (force : Bool) : Task Fault Unit := do
  let project ← (Project.load setting path).adapt Fault.project
  let (table, program) ← project.synthesize
  Task.print (String.join (table.refused.map skippedLine))
  let paths ← (program.write setting directory force).adapt Fault.program
  Task.print (String.join (paths.map writtenLine))

/-- Lists the route table of the project at a path. -/
def inspect (setting : Setting) (path : String) : Task Fault Unit := do
  let project ← (Project.load setting path).adapt Fault.project
  let table ← project.routeTable
  Task.print (table.listing (Project.displayName project.name))

/-- Loads what a build needs: the configuration, and then the project at a path. -/
def loadBoth (setting : Setting) (config : Option String) (path : String) :
    Task Fault (Config × Project) := do
  let config ← (Config.load setting config).adapt Fault.config
  let project ← (Project.load setting path).adapt Fault.project
  pure (config, project)

/-- Builds the project at a path; says whether that succeeded. -/
def build [Yaml.Wording] (tools : Launcher) (setting : Setting) (host : Host) (prompt : Prompt)
    (config : Option String) (path : String) (request : TargetRequest) (json : Bool) :
    Task Fault Bool := do
  match ← liftM (loadBoth setting config path).run with
  | .error fault =>
    if json then
      Task.print (printedReport true (.error (.setup fault.message)))
      pure false
    else throw fault
  | .ok (config, project) =>
    let (report, _) ← liftM
      (Build.Builder.build tools setting ⟨config, host⟩ (.new project) request prompt)
    Task.print (printedReport json report)
    pure report.isOk

/-- A build that reports in JSON ends in no fault. -/
theorem build_json_isOk [Yaml.Wording] (tools : Launcher) (setting : Setting) (host : Host)
    (prompt : Prompt) (config : Option String) (path : String) (request : TargetRequest)
    (m : Machine) :
    ((build tools setting host prompt config path request true).run.run m).1.isOk = true := by
  unfold build
  simp only [bind, ExceptT.bind, ExceptT.mk, liftM, monadLift, MonadLift.monadLift, ExceptT.lift,
    ExceptT.run, StateT.run, StateT.bind, ExceptT.bindCont, Functor.map, StateT.map]
  rcases loadBoth setting config path m with ⟨_ | ⟨config, project⟩, machine⟩
  · rfl
  · rfl

/-- Does a command; a user is asked where the command leaves the executable's path open. -/
def execute [Yaml.Wording] (tools : Launcher) (setting : Setting) (host : Host) (user : Prompt)
    (invocation : Invocation) : Task Fault Bool :=
  match invocation.command with
  | .compile project directory force => do
    compile setting project directory force
    pure true
  | .inspect project => do
    inspect setting project
    pure true
  | .build project output request json =>
    build tools setting host ((output.map Prompt.fixed).getD user) invocation.config project
      request json

end MockServer.CommandLine
