/-
Writing programs into directories.

The main file is written first and the module file second.  A file that is there already
is replaced only by force.
-/
import MockServer.Machine
import MockServer.Program.Basic

namespace MockServer.Program

/-- The name of the main file. -/
def mainName : String := "main.go"

/-- The name of the module file. -/
def moduleName : String := "go.mod"

/-- Why a file was not written. -/
inductive FileWriteFault where
  | taken (path : String)
  | failed (fault : FileFault)

/-- The wording of a file that was not written. -/
def FileWriteFault.message : FileWriteFault → String
  | .taken path => path ++ " already exists (use --force to overwrite)"
  | .failed fault => fault.message

/-- Why a program was not written. -/
inductive WriteFault where
  | noDirectory (path : String) (fault : FileFault)
  | noFile (path : String) (fault : FileWriteFault)

/-- The wording of a program that was not written. -/
def WriteFault.message : WriteFault → String
  | .noDirectory path fault => "Failed to create output directory " ++ path ++ ": " ++ fault.message
  | .noFile path fault => "Failed to write " ++ path ++ ": " ++ fault.message

/-- What the writing of a file tells. -/
def written (path text : String) : Log.Event :=
  ⟨.debug, "mocksmith::generator::templates", "Wrote generated file",
    [("path", .shown path), ("bytes", .count (Text.byteCount text))]⟩

/-- Writes a file; one that is there already only by force. -/
def writeText (setting : Setting) (path text : String) (force : Bool) :
    Task FileWriteFault Unit := do
  if (← Task.tree).exists? setting.directory path && !force then throw (.taken path)
  else
    Task.changeWhole (·.write setting.directory path (Text.encode text)) .failed
    Task.tell (written path text)

/-- Writes the files of a program into a directory, which is made where it is missing; gives
the paths written. -/
def write (setting : Setting) (program : Program) (directory : String) (force : Bool) :
    Task WriteFault (List String) := do
  let mainPath := Path.join directory mainName
  let modulePath := Path.join directory moduleName
  Task.change (·.makeDirectories setting.directory directory) (.noDirectory directory)
  (writeText setting mainPath program.mainFile force).adapt (.noFile mainPath)
  (writeText setting modulePath program.moduleFile force).adapt (.noFile modulePath)
  pure [mainPath, modulePath]

end MockServer.Program
