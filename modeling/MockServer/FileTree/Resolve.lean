/-
From paths to places.

A path is followed piece by piece from the root or from the working directory.  Every
piece has to stand in a directory, also one that leads back up, so a path may fail in
the middle although its end exists.
-/
import MockServer.FileTree.Basic
import MockServer.FileTree.Fault
import MockServer.Path
import MockServer.Text.Bytes

namespace MockServer.FileTree

/-- The most bytes of a name. -/
def longestName : Nat := 255

/-- The most bytes of a path. -/
def longestPath : Nat := 4095

/-- The directory at a place. -/
def requireDirectory (tree : FileTree) (place : Place) : Except FileFault Unit :=
  match tree.at? place with
  | none => .error .notFound
  | some (.file _ _) => .error .notDirectory
  | some .directory => .ok ()

/-- One piece further from a place. -/
def step (tree : FileTree) (here : Place) (piece : String) : Except FileFault Place := do
  -- Also the pieces that lead nowhere or back need a directory to stand in.
  tree.requireDirectory here
  if Path.isIdle piece then .ok here
  else if piece = ".." then .ok here.dropLast
  else if longestName < Text.byteCount piece then .error .nameTooLong
  else .ok (here ++ [piece])

/-- Where a path starts. -/
def origin (directory : Place) (path : String) : Place :=
  if Path.isAbsolute path then [] else directory

/-- Is a text a path that can be followed at all? -/
def checkPath (path : String) : Except FileFault Unit :=
  if path.toList.contains '\x00' then .error .nulInName
  else if path = "" then .error .notFound
  else if longestPath < Text.byteCount path then .error .nameTooLong
  else .ok ()

/-- The place of a path; nothing need stand there. -/
def resolve (tree : FileTree) (directory : Place) (path : String) : Except FileFault Place := do
  checkPath path
  (Path.pieces path).foldlM tree.step (origin directory path)

/-- What stands at a path. -/
def find (tree : FileTree) (directory : Place) (path : String) :
    Except FileFault (Place × Entry) := do
  let place ← tree.resolve directory path
  match tree.at? place with
  | some entry => .ok (place, entry)
  | none => .error .notFound

/-- Does anything stand at a path? -/
def exists? (tree : FileTree) (directory : Place) (path : String) : Bool :=
  match tree.find directory path with
  | .ok _ => true
  | .error _ => false

/-- Does a file stand at a path? -/
def isFile (tree : FileTree) (directory : Place) (path : String) : Bool :=
  match tree.find directory path with
  | .ok (_, .file _ _) => true
  | _ => false

/-- Does a directory stand at a path? -/
def isDirectory (tree : FileTree) (directory : Place) (path : String) : Bool :=
  match tree.find directory path with
  | .ok (_, .directory) => true
  | _ => false

/-- Where a new entry may be made: the place of the directory, and the name in it.  The
name is `none` where a path ends with no name of its own. -/
structure Target where
  directory : Place
  name : Option String
  slash : Bool

/-- The target of a path: everything but the last piece has to lead to a directory. -/
def target (tree : FileTree) (directory : Place) (path : String) : Except FileFault Target := do
  checkPath path
  let ps := Path.pieces path
  let trimmed := (ps.reverse.dropWhile (· == "")).reverse
  let here ← trimmed.dropLast.foldlM tree.step (origin directory path)
  tree.requireDirectory here
  let slash := trimmed.length < ps.length
  match trimmed.getLast? with
  | none => .ok ⟨here, none, slash⟩
  | some last =>
    if last = "." || last = ".." then .ok ⟨here, none, slash⟩
    else if longestName < Text.byteCount last then .error .nameTooLong
    else .ok ⟨here, some last, slash⟩

end MockServer.FileTree
