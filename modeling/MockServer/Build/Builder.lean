/-
Building executables.

A build goes through its stages in a fixed order, and the first stage that fails is its
fault: the host has to be known, the user chooses where the executable goes, the
toolchain is located and, if that is wanted, probed, a workspace is made and the program
is written into it, the toolchain builds it, and the executable has to be there in the
end.  Exactly one event ends the log of a build, and the session remembers the last
executable.
-/
import MockServer.Build.Report
import MockServer.Build.Tool
import MockServer.Build.Toolchain
import MockServer.Build.Workspace
import MockServer.Program.Synthesis
import MockServer.Program.Write

namespace MockServer.Build

/-- The part of the program that speaks here. -/
def sessionTarget : String := "mocksmith::build::session"

/-- A builder: the settings, and the machine that it runs on. -/
structure Builder where
  config : Config
  host : Host

/-! ### Stages -/

/-- The file name that a user is offered. -/
def offeredName (project : Project) (target : Platform) : String :=
  Project.slug project.name ++ target.system.executableSuffix

/-- Asks where the executable goes; gives the absolute path. -/
def chooseOutput (setting : Setting) (prompt : Prompt) (name : String) : Task Fault String := do
  match ← Task.ask prompt name with
  | none => throw .cancelled
  | some path =>
    match Path.absolute? setting.directoryPath path with
    | some output => pure output
    | none => throw (.workspace ("invalid output path " ++ path
        ++ ": cannot make an empty path absolute"))

/-- What a probe that succeeded tells. -/
def probed (output : String) : Log.Event :=
  ⟨.debug, sessionTarget, "Toolchain probe", [("version", .quoted (Text.trim output))]⟩

/-- Asks the toolchain for its version. -/
def probe (tools : Launcher) (setting : Setting) (toolchain : Toolchain)
    (environment : Environment) : Task Fault Unit := do
  match ← Tool.run tools
      (Tool.launchOf setting toolchain.command ["version"] toolchain.root environment) with
  | .succeeded output => Task.tell (probed output)
  | .exited code errors => throw (.unusableToolchain (Fault.failedMessage code errors))
  | .notStarted reason => throw (.unusableToolchain reason)

/-- Writes the program of a project into a workspace; gives its route table. -/
def generate (setting : Setting) (project : Project) (workspace : Workspace) :
    Task Fault RouteTable := do
  let (table, program) ← project.synthesize
  -- The workspace is new, so nothing in it has to be replaced.
  let _ ← (program.write setting workspace.path false).adapt
    fun fault => Fault.workspace fault.message
  pure table

/-- What the start of a build tells. -/
def crossBuilding (project : Project) (table : RouteTable) (target : Platform) (output : String) :
    Log.Event :=
  ⟨.info, sessionTarget, "Cross-building mock server",
    [("project", .quoted (Project.displayName project.name)),
      ("routes", .count table.routeCount),
      ("os", .shown target.system.name),
      ("arch", .shown target.architecture.name),
      ("output", .shown output)]⟩

/-- The arguments with which the toolchain builds an executable. -/
def buildArguments (output : String) : List String :=
  ["build", "-o", output, "."]

/-- What an executable that could not be made executable tells. -/
def notMarked (output : String) (fault : FileFault) : Log.Event :=
  ⟨.warn, sessionTarget, "Could not mark output executable",
    [("path", .shown output), ("error", .shown fault.message)]⟩

/-- Lets the toolchain build the program in a workspace. -/
def compile (tools : Launcher) (setting : Setting) (toolchain : Toolchain)
    (environment : Environment) (workspace : Workspace) (output : String) : Task Fault Unit := do
  match ← Tool.run tools
      (Tool.launchOf setting toolchain.command (buildArguments output) workspace.path
        environment) with
  | .succeeded _ => pure ()
  | .exited code errors => throw (.failed code errors)
  | .notStarted reason => throw (.notStarted toolchain.command reason)

/-- Requires the executable to be there, and marks it. -/
def finish (setting : Setting) (output : String) : Task Fault Unit := do
  let tree ← Task.tree
  if tree.isFile setting.directory output then
    match tree.makeExecutable setting.directory output with
    | .ok marked => Task.setTree marked
    | .error fault => Task.tell (notMarked output fault)
  else throw (.failed (some 0)
    ("toolchain reported success but " ++ output ++ " was not produced"))

namespace Builder

/-! ### Builds -/

/-- The stages behind the choice of the output, on a known host. -/
def produce (tools : Launcher) (setting : Setting) (builder : Builder) (project : Project)
    (host target : Platform) (output : String) : Task Fault String := do
  let toolchain ← Toolchain.locate setting builder.config.resourcesDirectory host
  toolchain.ensureExecutable setting
  let environment := toolchain.environment setting target builder.config.dataDirectory
  if builder.config.probeToolchain then
    probe tools setting toolchain environment
  Workspace.use setting builder.config fun workspace => do
    let table ← generate setting project workspace
    Task.tell (crossBuilding project table target output)
    compile tools setting toolchain environment workspace output
    finish setting output
    pure output

/-- All stages of a build; gives the path of the executable. -/
def attempt (tools : Launcher) (setting : Setting) (builder : Builder) (project : Project)
    (request : TargetRequest) (prompt : Prompt) : Task Fault String := do
  match builder.host.platform? with
  | none => throw (.unsupportedHost builder.host)
  | some host =>
    let target := request.target host
    let output ← chooseOutput setting prompt (offeredName project target)
    produce tools setting builder project host target output

/-- What the end of a build tells. -/
def ended : Report → Log.Event
  | .ok product => ⟨.info, sessionTarget, "Build finished",
      [("path", .shown product.path), ("port", .count product.port)]⟩
  | .error .cancelled => ⟨.info, sessionTarget, "Build cancelled", []⟩
  | .error fault => ⟨.error, sessionTarget, "Build failed", [("error", .shown fault.message)]⟩

/-- The report of an attempt. -/
def reportOf (result : Except Fault String) : Report :=
  result.map (⟨·, Program.defaultPort⟩)

/-- The session after a report. -/
def remember (session : Session) : Report → Session
  | .ok product => { session with lastBuild := some product }
  | .error _ => session

/-- Builds the project of a session. -/
def build (tools : Launcher) (setting : Setting) (builder : Builder) (session : Session)
    (request : TargetRequest) (prompt : Prompt) : StateM Machine (Report × Session) := do
  let report := reportOf (← (builder.attempt tools setting session.project request prompt).run)
  modify fun m => { m with log := m.log ++ [ended report] }
  pure (report, remember session report)

end Builder
end MockServer.Build
