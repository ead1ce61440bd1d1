/-
Reading and changing a file tree.

Every operation either fails and leaves the tree as it was, or gives the changed tree;
only `makeDirectories` may fail behind a part of its work, and then gives the tree with
that part.
-/
import MockServer.FileTree.Resolve

namespace MockServer.FileTree

/-- The bytes of a file. -/
def readBytes (tree : FileTree) (directory : Place) (path : String) :
    Except FileFault (List UInt8) := do
  match ← tree.find directory path with
  | (_, .file content _) => .ok content
  | (_, .directory) => .error .isDirectory

/-- The text of a file. -/
def readText (tree : FileTree) (directory : Place) (path : String) : Except FileFault String := do
  match Text.decode? (← tree.readBytes directory path) with
  | some text => .ok text
  | none => .error .notText

/-- Writes a file in place of the one there; a file that was executable stays so. -/
def write (tree : FileTree) (directory : Place) (path : String) (content : List UInt8) :
    Except FileFault FileTree := do
  let target ← tree.target directory path
  match target.name with
  | none => .error .isDirectory
  | some name =>
    if target.slash then .error .isDirectory
    else
      let place := target.directory ++ [name]
      match tree.at? place with
      | some .directory => .error .isDirectory
      | some (.file _ executable) => .ok (tree.set place (.file content executable))
      | none => .ok (tree.set place (.file content false))

/-- The place of a path at which nothing stands yet, in a directory. -/
def freePlace (tree : FileTree) (directory : Place) (path : String) : Except FileFault Place := do
  let target ← tree.target directory path
  match target.name with
  | none => .error .alreadyExists
  | some name =>
    let place := target.directory ++ [name]
    match tree.at? place with
    | some _ => .error .alreadyExists
    | none => .ok place

/-- Makes one directory. -/
def makeDirectory (tree : FileTree) (directory : Place) (path : String) :
    Except FileFault FileTree :=
  (tree.freePlace directory path).map (tree.set · .directory)

/-- A tree, with the fault that ended the work on it if there was one. -/
abbrev Changed := FileTree × Except FileFault Unit

/-- Makes a directory where none is there yet. -/
def ensureDirectory (tree : FileTree) (directory : Place) (path : String) : Changed :=
  match tree.makeDirectory directory path with
  | .ok changed => (changed, .ok ())
  | .error fault =>
    if tree.isDirectory directory path then (tree, .ok ()) else (tree, .error fault)

/-- Makes a directory and those above it.  The directories above are made only where the
directory itself cannot be made without them; `fuel` bounds their number. -/
def makeDirectoriesFrom (directory : Place) : (fuel : Nat) → FileTree → String → Changed
  | 0, tree, path => tree.ensureDirectory directory path
  | fuel + 1, tree, path =>
    if path = "" then (tree, .ok ())
    else match tree.makeDirectory directory path with
      | .ok changed => (changed, .ok ())
      | .error .notFound =>
        match Path.parent? path with
        | none => (tree, .error .notFound)
        | some parent =>
          match makeDirectoriesFrom directory fuel tree parent with
          | (changed, .ok ()) => changed.ensureDirectory directory path
          | (changed, .error fault) => (changed, .error fault)
      | .error fault =>
        if tree.isDirectory directory path then (tree, .ok ()) else (tree, .error fault)

/-- Makes a directory and those above it. -/
def makeDirectories (tree : FileTree) (directory : Place) (path : String) : Changed :=
  makeDirectoriesFrom directory (path.length + 1) tree path

/-- Makes what stands at a path executable, where it is a file. -/
def makeExecutable (tree : FileTree) (directory : Place) (path : String) :
    Except FileFault FileTree := do
  match ← tree.find directory path with
  | (place, .file content _) => .ok (tree.set place (.file content true))
  | (_, .directory) => .ok tree

end MockServer.FileTree
