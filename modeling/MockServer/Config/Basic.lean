/-
The configuration of builds.

Settings are layered: a variable of the environment stands over the configuration file,
and both over the defaults.  A variable that is blank says nothing, and so does a truth
value that cannot be recognized.  Main statement: `resolve_resources_of_variable` — a
variable that is not blank decides its setting.
-/
import MockServer.Config.Layer
import MockServer.Machine
import MockServer.Text.Truth

namespace MockServer

/-- The settings of a build. -/
structure Config where
  resourcesDirectory : String
  dataDirectory : String
  probeToolchain : Bool
  scratchDirectory : Option String
  deriving DecidableEq, Repr

namespace Config

/-- The variable of the directory with the toolchains. -/
def resourcesVariable : String := "MOCKSMITH_RESOURCES_DIR"

/-- The variable of the directory for private data. -/
def dataVariable : String := "MOCKSMITH_DATA_DIR"

/-- The variable that turns probing on and off. -/
def probeVariable : String := "MOCKSMITH_PROBE_TOOLCHAIN"

/-- The variable of the directory for scratch workspaces. -/
def scratchVariable : String := "MOCKSMITH_SCRATCH_DIR"

/-- The directory of the program under the one for private data. -/
def applicationName : String := "mocksmith"

/-- The configuration file of a directory. -/
def defaultFile : String := "mocksmith.toml"

/-- A way to look up variables. -/
abbrev Lookup := String → Option String

/-- The value of a variable that is not blank. -/
def filled? (lookup : Lookup) (name : String) : Option String :=
  (lookup name).filter (!Text.isBlankText ·)

/-- Where private data lie when nothing else is said. -/
def defaultDataDirectory (setting : Setting) (lookup : Lookup) : String :=
  let base := (filled? lookup "XDG_DATA_HOME").or
    ((filled? lookup "HOME").map fun home => Path.join (Path.join home ".local") "share")
  Path.join (base.getD setting.temporaryDirectory) applicationName

/-- Where the toolchains lie when nothing else is said: beside the program where such a
directory is, else in the working directory. -/
def defaultResourcesDirectory (setting : Setting) (tree : FileTree) : String :=
  match setting.programDirectory.map (Path.join · "resources") with
  | some beside =>
    if tree.isDirectory setting.directory beside then beside
    else Path.join setting.directoryPath "resources"
  | none => Path.join setting.directoryPath "resources"

/-- The settings of a file and an environment. -/
def resolve (setting : Setting) (tree : FileTree) (layer : Layer) (lookup : Lookup) : Config where
  resourcesDirectory := ((filled? lookup resourcesVariable).or layer.resourcesDirectory).getD
    (defaultResourcesDirectory setting tree)
  dataDirectory := ((filled? lookup dataVariable).or layer.dataDirectory).getD
    (defaultDataDirectory setting lookup)
  probeToolchain := (((lookup probeVariable).bind Text.truth?).or layer.probeToolchain).getD true
  scratchDirectory := (filled? lookup scratchVariable).or layer.scratchDirectory

/-- What the layering tells: a truth value that was not recognized. -/
def resolveNotices (lookup : Lookup) : List Log.Event :=
  match lookup probeVariable with
  | some raw =>
    if (Text.truth? raw).isNone then
      [⟨.warn, "mocksmith::config", "Ignoring unrecognized boolean",
        [("variable", .quoted probeVariable), ("value", .shown raw)]⟩]
    else []
  | none => []

/-- The directory in which the toolchain keeps its packages. -/
def packageDirectory (config : Config) : String :=
  Path.join config.dataDirectory "gopath"

/-- A variable that is not blank decides its setting. -/
theorem resolve_resources_of_variable {setting : Setting} {tree : FileTree} {layer : Layer}
    {lookup : Lookup} {value : String} (h : filled? lookup resourcesVariable = some value) :
    (resolve setting tree layer lookup).resourcesDirectory = value := by
  simp [resolve, h]

/-! ### Loading -/

/-- Why no configuration was loaded. -/
inductive LoadFault where
  | missing (path : String)
  | unreadable (path : String) (fault : FileFault)
  | invalid (path source : String) (fault : Layer.TextFault)

/-- The wording of a failed loading up to the wording of the text's own fault. -/
def LoadFault.heading : LoadFault → String
  | .missing path => "Config file not found: " ++ path
  | .unreadable path fault => "Failed to read config: " ++ path ++ ": " ++ fault.message
  | .invalid path _ _ => "Failed to parse config: " ++ path

/-- The wording of a failed loading. -/
def LoadFault.message (fault : LoadFault) : String :=
  match fault with
  | .invalid _ source inner => fault.heading ++ ": " ++ inner.message source
  | _ => fault.heading

/-- The layer of the file at a path; `none` where there is no file. -/
def layerAt (tree : FileTree) (directory : Place) (path : String) :
    Except LoadFault (Option Layer) := do
  if !tree.exists? directory path then .ok none
  else
    let text ← (tree.readText directory path).mapError (.unreadable path)
    let layer ← (Layer.read text).mapError (.invalid path text)
    .ok (some (match Path.parent? path with
      | some base => layer.under base
      | none => layer))

/-- The layer of the file that was named, which has to exist, or of the file of the working
directory, which need not. -/
def findLayer (tree : FileTree) (directory : Place) (named : Option String) :
    Except LoadFault Layer := do
  match named with
  | some path =>
    match ← layerAt tree directory path with
    | some layer => .ok layer
    | none => .error (.missing path)
  | none => return (← layerAt tree directory defaultFile).getD .empty

/-- What the loading of a configuration tells. -/
def loaded (config : Config) : Log.Event :=
  ⟨.debug, "mocksmith::config", "Loaded builder config",
    [("resources_dir", .shown config.resourcesDirectory),
      ("data_dir", .shown config.dataDirectory), ("probe_toolchain", .truth config.probeToolchain)]⟩

/-- Loads the configuration. -/
def load (setting : Setting) (named : Option String) : Task LoadFault Config := do
  let tree ← Task.tree
  match findLayer tree setting.directory named with
  | .error fault => throw fault
  | .ok layer =>
    let lookup := setting.environment.get?
    let config := resolve setting tree layer lookup
    Task.tellAll (resolveNotices lookup ++ [loaded config])
    pure config

end Config
end MockServer
