/-
Scratch workspaces.

A build works in a directory of its own, which is made for it under the first name drawn that
is not taken, and is removed when the work in it has ended, however it ended.
-/
import MockServer.Build.Fault
import MockServer.Config.Basic
import MockServer.Text.Quoted

namespace MockServer.Build

/-- A scratch workspace: its path, and its place in the tree. -/
structure Workspace where
  path : String
  place : Place
  deriving DecidableEq, Repr

namespace Workspace

/-- What the names of workspaces begin with. -/
def nameStart : String := "mockbuild-"

/-- How many names are tried.  Nothing hangs on the number, and no proof should try them all. -/
@[irreducible]
def tries : Nat := 65536

/-- What the making of a workspace tells. -/
def created (workspace : Workspace) : Log.Event :=
  ⟨.debug, "mocksmith::build::session", "Created scratch workspace",
    [("workspace", .shown workspace.path)]⟩

/-- The wording of a workspace that could not be made. -/
def notMade (path : String) (fault : FileFault) : Fault :=
  .workspace (fault.message ++ " at path " ++ Text.quotedArgument path)

/-- The wording of a directory in which every name that was tried is taken. -/
def crowded (base : String) : Fault :=
  .workspace ("too many temporary files exist at path " ++ Text.quotedArgument base)

/-- The path in a directory under the name that is drawn as the `n`-th. -/
def pathAt (setting : Setting) (base : String) (n : Nat) : String :=
  Path.join base (nameStart ++ setting.draw n)

/-- The place in a directory for the name that is drawn as the `n`-th. -/
def placeAt (setting : Setting) (tree : FileTree) (base : String) (n : Nat) :
    Except FileFault Place :=
  tree.freePlace setting.directory (pathAt setting base n)

/-- Is there no place because the name is taken? -/
def isTaken : Except FileFault Place → Bool
  | .error .alreadyExists => true
  | _ => false

/-- The workspace at a path, where there is a place for it. -/
def ofPlace (path : String) : Except FileFault Place → Except Fault Workspace
  | .ok place => .ok ⟨path, place⟩
  | .error fault => .error (notMade path fault)

/-- The workspace in a directory under the first name drawn that is not taken, where there is one
among so many. -/
def choose (setting : Setting) (tree : FileTree) (base : String) (tries : Nat) :
    Except Fault Workspace :=
  match (List.range tries).find? fun n => !isTaken (placeAt setting tree base n) with
  | some n => ofPlace (pathAt setting base n) (placeAt setting tree base n)
  | none => .error (crowded base)

/-- The directory for workspaces, which is made where it was configured and is missing. -/
def parentDirectory (setting : Setting) (config : Config) : Task Fault String := do
  match config.scratchDirectory with
  | some path =>
    Task.change (·.makeDirectories setting.directory path) fun f => .workspace f.message
    pure path
  | none => pure setting.temporaryDirectory

/-- Puts the workspace that was chosen in place. -/
def enter (tree : FileTree) : Except Fault Workspace → Task Fault Workspace
  | .error fault => throw fault
  | .ok workspace => do
    Task.setTree (tree.set workspace.place .directory)
    Task.tell (created workspace)
    pure workspace

/-- Makes a workspace. -/
def make (setting : Setting) (config : Config) : Task Fault Workspace := do
  let parent ← parentDirectory setting config
  let tree ← Task.tree
  enter tree (choose setting tree (Path.join setting.directoryPath parent) tries)

/-- Removes a workspace with everything in it. -/
def discard (workspace : Workspace) : StateM Machine Unit :=
  modify fun m => { m with tree := m.tree.remove workspace.place }

/-- Does some work in a workspace of its own. -/
def use {α : Type} (setting : Setting) (config : Config) (work : Workspace → Task Fault α) :
    Task Fault α := do
  let workspace ← make setting config
  ExceptT.mk do
    -- The work is run apart, so that its fault does not pass over the removal.
    let result ← (work workspace).run
    discard workspace
    pure result

/-- A removed workspace is not there. -/
theorem at?_discard (workspace : Workspace) (m : Machine) (h : workspace.place ≠ []) :
    ((workspace.discard.run m).2.tree).at? workspace.place = none := by
  show (m.tree.remove workspace.place).at? workspace.place = none
  rw [FileTree.at?_remove _ _ h, if_pos]
  exact List.isPrefixOf_iff_prefix.2 List.prefix_rfl

end Workspace
end MockServer.Build
