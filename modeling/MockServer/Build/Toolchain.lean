/-
The bundled toolchain of a host.

A bundle lies under the directory with the toolchains; its command must be a file.  Every
tool of the bundle sees the inherited environment with eight variables set over it.
Main statement: `searchPath_split` — the search path begins with the bundle's own
directory and goes on with the inherited one.
-/
import MockServer.Build.Fault
import MockServer.Machine

namespace MockServer.Build

/-- A bundled toolchain: its directory and its command. -/
structure Toolchain where
  root : String
  command : String
  deriving DecidableEq, Repr

namespace Toolchain

/-- The part of the program that speaks here. -/
def target : String := "mocksmith::build::toolchain"

/-- The absolute path of a path, or the path itself where it has none. -/
def absolutely (setting : Setting) (path : String) : String :=
  (Path.absolute? setting.directoryPath path).getD path

/-- The directory of the bundle for a host. -/
def rootFor (setting : Setting) (resources : String) (host : Platform) : String :=
  absolutely setting (Path.join (Path.join resources "go") host.bundleKey)

/-- The directory of a bundle's commands. -/
def binaries (root : String) : String :=
  Path.join root "bin"

/-- Where the toolchain of a host has to be. -/
def expected (setting : Setting) (resources : String) (host : Platform) : Toolchain where
  root := rootFor setting resources host
  command := Path.join (binaries (rootFor setting resources host))
    ("go" ++ host.system.executableSuffix)

/-- The toolchain of a host in a tree. -/
def find (setting : Setting) (tree : FileTree) (resources : String) (host : Platform) :
    Except Fault Toolchain :=
  let toolchain := expected setting resources host
  if tree.isFile setting.directory toolchain.command then .ok toolchain
  else .error (.noToolchain toolchain.command)

/-- What the finding of a toolchain tells. -/
def located (toolchain : Toolchain) : Log.Event :=
  ⟨.debug, target, "Located bundled toolchain", [("go", .shown toolchain.command)]⟩

/-- Finds the toolchain of a host. -/
def locate (setting : Setting) (resources : String) (host : Platform) : Task Fault Toolchain := do
  match find setting (← Task.tree) resources host with
  | .ok toolchain =>
    Task.tell toolchain.located
    pure toolchain
  | .error fault => throw fault

/-- What a command that could not be made executable tells. -/
def notMarked (toolchain : Toolchain) (fault : FileFault) : Log.Event :=
  ⟨.warn, target, "Could not mark toolchain executable",
    [("go", .shown toolchain.command), ("error", .shown fault.message)]⟩

/-- Makes the command executable.  That it cannot be is not a fault yet: the start of the
command will show the real one. -/
def ensureExecutable {ε : Type} (setting : Setting) (toolchain : Toolchain) : Task ε Unit := do
  match (← Task.tree).makeExecutable setting.directory toolchain.command with
  | .ok tree => Task.setTree tree
  | .error fault => Task.tell (toolchain.notMarked fault)

/-! ### Environment -/

/-- The entries of a search path. -/
def searchEntries : List Char → List (List Char)
  | [] => [[]]
  | c :: rest =>
    if c = ':' then [] :: searchEntries rest
    else match searchEntries rest with
      | entry :: entries => (c :: entry) :: entries
      | [] => [[c]]

/-- The search path with a directory in front; a directory that would fall into pieces
stands alone. -/
def searchPath (directory inherited : String) : String :=
  if directory.toList.contains ':' then directory else directory ++ ":" ++ inherited

/-- The variables for the tools of a bundle. -/
def environment (setting : Setting) (toolchain : Toolchain) (target : Platform)
    (dataDirectory : String) : Environment :=
  let packages := absolutely setting (Path.join dataDirectory "gopath")
  [("GOROOT", toolchain.root),
    ("GOPATH", packages),
    ("GOMODCACHE", Path.join (Path.join packages "pkg") "mod"),
    ("PATH", searchPath (binaries toolchain.root) ((setting.environment.get? "PATH").getD "")),
    ("CGO_ENABLED", "0"),
    ("GOOS", target.system.name),
    ("GOARCH", target.architecture.name),
    ("GOTOOLCHAIN", "local")]

/-- The entries of two search paths with a colon between them. -/
theorem searchEntries_append_colon {s : List Char} (h : ':' ∉ s) (t : List Char) :
    searchEntries (s ++ ':' :: t) = s :: searchEntries t := by
  induction s with
  | nil => simp [searchEntries]
  | cons c r ih =>
    have hc : c ≠ ':' := fun hc => h (by simp [hc])
    have hr : ':' ∉ r := fun hr => h (by simp [hr])
    simp [searchEntries, hc, ih hr]

/-- The search path begins with the directory and goes on with the inherited entries. -/
theorem searchPath_split {directory : String} (h : ':' ∉ directory.toList) (inherited : String) :
    searchEntries (searchPath directory inherited).toList =
      directory.toList :: searchEntries inherited.toList := by
  have hc : directory.toList.contains ':' = false := by simpa using h
  simp only [searchPath, hc, Bool.false_eq_true, if_false, String.toList_append]
  rw [List.append_assoc]
  exact searchEntries_append_colon h _

end Toolchain
end MockServer.Build
