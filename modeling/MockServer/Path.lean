/-
Paths as texts.

A path is a text whose pieces stand between slashes; it is absolute where it begins
with one.  Empty pieces and single points mean nothing inside a path, and are passed
over where a path is taken apart.  Main statements:

* `join_of_absolute` — an absolute path is its own place under every base;
* `absolute?_empty` — the empty path has no absolute path.
-/
namespace MockServer.Path

/-- Does a path begin at the root? -/
def isAbsolute (path : String) : Bool :=
  path.toList.head? == some '/'

/-- Does a path end with a slash? -/
def endsInSlash (path : String) : Bool :=
  path.toList.getLast? == some '/'

/-- The place of a path under a base: a slash stands between them where it is missing, and an
absolute path is taken as it is. -/
def join (base path : String) : String :=
  if isAbsolute path then path
  else if base = "" || endsInSlash base then base ++ path
  else base ++ "/" ++ path

/-! ### Pieces -/

/-- The pieces of a text between slashes. -/
def splitSlashes : List Char → List (List Char)
  | [] => [[]]
  | c :: r =>
    if c = '/' then [] :: splitSlashes r
    else match splitSlashes r with
      | p :: ps => (c :: p) :: ps
      | [] => [[c]]

/-- The pieces of a path between slashes. -/
def pieces (path : String) : List String :=
  (splitSlashes path.toList).map String.ofList

/-- The path of some pieces. -/
def ofPieces (ps : List String) : String :=
  "/".intercalate ps

/-- A piece that means nothing behind the beginning of a path. -/
def isIdle (piece : String) : Bool :=
  piece == "" || piece == "."

/-- Drops pieces that mean nothing from the end, but not the first piece. -/
def dropIdleEnd (ps : List String) : List String :=
  match ps with
  | [] => []
  | first :: rest => first :: (rest.reverse.dropWhile isIdle).reverse

/-- The last component of a path, with the pieces before it; the root and the empty path have
none. -/
def splitLast? (path : String) : Option (List String × String) :=
  let ps := dropIdleEnd (pieces path)
  match ps.getLast? with
  | some last => if last = "" then none else some (ps.dropLast, last)
  | none => none

/-- The path without its last component. -/
def parent? (path : String) : Option String :=
  (splitLast? path).map fun (before, _) =>
    match dropIdleEnd before with
    | [""] => "/"
    | ps => ofPieces ps

/-- The name of the file at a path; a path that ends in a point or two has none. -/
def fileName? (path : String) : Option String :=
  (splitLast? path).bind fun (_, last) => if last = "." || last = ".." then none else some last

/-- What follows the last point of a file's name, where something stands before that point. -/
def extension? (path : String) : Option String :=
  (fileName? path).bind fun name =>
    let behind := (name.toList.reverse.takeWhile (· ≠ '.')).reverse
    let before := name.length - behind.length
    -- The point itself is before the ending, so more than the point has to be there.
    if 1 < before then some (String.ofList behind) else none

/-! ### Absolute paths -/

/-- The absolute path of a path, without pieces that mean nothing; a slash at the end is
kept, and so are exactly two at the beginning.  The empty path has none. -/
def absolute? (directory path : String) : Option String :=
  if path = "" then none
  else
    let ps := (pieces path).filter (!isIdle ·)
    -- Two slashes at the beginning may mean something of their own; three or more mean one.
    let double := path.startsWith "//" && !path.startsWith "///"
    let base := if double then "//" else if isAbsolute path then "/" else directory
    let whole := ps.foldl join base
    some (if endsInSlash path then join whole "" else whole)

/-! ### Laws -/

theorem join_of_absolute {base path : String} (h : isAbsolute path = true) :
    join base path = path := by
  simp [join, h]

theorem absolute?_empty (directory : String) : absolute? directory "" = none := by
  simp [absolute?]

end MockServer.Path
