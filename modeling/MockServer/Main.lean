/-
The program.

A run is a function of the files that its command line names, so the program looks at these
files, runs, and makes the differences real.  The host has no bundled toolchain: builds end
before their user is asked or a tool is started.
-/
import MockServer.CommandLine.Ending

namespace MockServer

/-- The machine for which this program is made. -/
def thisHost : Host := ⟨"linux", "x86_64"⟩

/-- The variables that the program looks at. -/
def knownVariables : List String :=
  ["PATH", "TMPDIR", "HOME", "XDG_DATA_HOME", Config.resourcesVariable, Config.dataVariable,
    Config.probeVariable, Config.scratchVariable, Log.Setup.levelVariable,
    Log.Setup.formatVariable, Log.Setup.locationVariable, Log.Setup.filterVariable]

/-- The paths that a command looks at or changes. -/
def CommandLine.Invocation.paths (invocation : CommandLine.Invocation) : List String :=
  match invocation.command with
  | .compile project directory _ =>
    [project, directory, Path.join directory Program.mainName,
      Path.join directory Program.moduleName]
  | .inspect project => [project]
  | .build project _ _ _ => [invocation.config.getD Config.defaultFile, project]

/-- The places that are passed on the way along some pieces of a path. -/
def placesAlong (place : Place) : List String → List Place
  | [] => []
  | piece :: rest =>
    let next := if piece = ".." then place.dropLast
      else if Path.isIdle piece then place
      else place ++ [piece]
    next :: placesAlong next rest

/-- The places that are passed on the way to a path. -/
def placesTo (directory path : String) : List Place :=
  placesAlong [] (Path.pieces (Path.join directory path))

/-- The path of a place. -/
def pathOf (place : Place) : String :=
  "/" ++ "/".intercalate place

/-! ### The outer layer -/

/-- No tool can be started here. -/
def noTools : Launcher :=
  fun _ tree => (.notStarted FileFault.notFound.message, tree)

/-- Looks at a place. -/
def lookAt (tree : FileTree) (place : Place) : IO FileTree := do
  try
    let content ← IO.FS.readBinFile (pathOf place)
    return tree.set place (.file content.toList false)
  catch
    | .noFileOrDirectory _ _ _ => return tree
    -- The number says that a directory was opened as a file.
    | .inappropriateType _ 21 _ => return tree.set place .directory
    | .inappropriateType _ _ _ => return tree
    | fault => throw fault

/-- Makes an entry real. -/
def realize (place : Place) : Entry → IO Unit
  | .directory => IO.FS.createDir (pathOf place)
  | .file content _ => IO.FS.writeBinFile (pathOf place) ⟨content.toArray⟩

/-- The setting of this run.  No workspace is made in it, so its names need not be random. -/
def currentSetting : IO Setting := do
  let directory := toString (← IO.currentDir)
  let environment ← knownVariables.filterMapM fun name => do
    return (← IO.getEnv name).map (name, ·)
  let program := toString (← IO.appPath)
  return {
    directory := (Path.pieces directory).filter (!Path.isIdle ·)
    environment
    programDirectory := Path.parent? program
    draw := fun n => String.ofList (Number.digits (100000 + n)) }

/-- Runs the program; gives its exit code. -/
def runProgram (words : List String) : IO UInt32 := do
  let setting ← currentSetting
  let paths := match CommandLine.read words with
    | .ok invocation => invocation.paths
    | .error _ => []
  let resources := (setting.programDirectory.map (Path.join · "resources")).toList
  let places := (paths ++ resources).flatMap (placesTo setting.directoryPath)
  let before ← places.eraseDups.foldlM lookAt FileTree.empty
  let time := toString (← IO.monoMsNow)
  let (ending, after) := CommandLine.run noTools setting thisHost time words [] before
  for (place, entry) in after.entries do
    unless before.at? place = some entry do realize place entry
  IO.print ending.output
  IO.eprint ending.errors
  return UInt32.ofNat ending.code

end MockServer

def main (words : List String) : IO UInt32 :=
  MockServer.runProgram words
