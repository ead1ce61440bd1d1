/-
Loading project documents from files.

The format of a document is told by the end of its file's name: `.yaml` and `.yml` stand
for YAML, everything else for JSON.
-/
import MockServer.Machine
import MockServer.Project.Document

namespace MockServer.Project

/-- The format of the document at a path. -/
def formatOf (path : String) : Format :=
  match Path.extension? path with
  | some "yaml" => .yaml
  | some "yml" => .yaml
  | _ => .json

/-- Why no project was loaded. -/
inductive LoadFault where
  | unreadable (path : String) (fault : FileFault)
  | invalid (path : String) (fault : DocumentFault)

/-- The wording of a failed loading. -/
def LoadFault.message [Yaml.Wording] : LoadFault → String
  | .unreadable path fault => "Failed to read project document " ++ path ++ ": " ++ fault.message
  | .invalid path fault => "Failed to load project document " ++ path ++ ": " ++ fault.message

/-- What the loading of a project tells. -/
def loaded (path : String) (project : Project) : Log.Event :=
  ⟨.debug, "mocksmith::spec::load", "Loaded project document",
    [("path", .shown path), ("endpoints", .count project.endpoints.length)]⟩

/-- The project at a path of a tree. -/
def find (tree : FileTree) (directory : Place) (path : String) : Except LoadFault Project := do
  let text ← (tree.readText directory path).mapError (.unreadable path)
  (read (formatOf path) text).mapError (.invalid path)

/-- Loads the project at a path. -/
def load (setting : Setting) (path : String) : Task LoadFault Project := do
  match find (← Task.tree) setting.directory path with
  | .ok project =>
    Task.tell (loaded path project)
    pure project
  | .error fault => throw fault

end MockServer.Project
