/-
File trees.

A tree says for places, which are lists of names from the root, whether a file or a
directory stands there.  The root is always a directory.  Main statements:

* `at?_set_self`, `at?_set_of_ne` — setting an entry changes its own place only;
* `at?_remove` — removing a place takes away what lies at and under it, and nothing else.
-/
namespace MockServer

/-- What stands at a place. -/
inductive Entry where
  | file (content : List UInt8) (executable : Bool)
  | directory
  deriving DecidableEq

/-- A place: the names that lead to it from the root. -/
abbrev Place := List String

/-- The files and directories of a machine. -/
structure FileTree where
  entries : List (Place × Entry)

namespace FileTree

/-- A tree with a root only. -/
def empty : FileTree :=
  ⟨[]⟩

/-- What stands at a place. -/
def at? (tree : FileTree) (place : Place) : Option Entry :=
  if place = [] then some .directory
  else (tree.entries.find? (·.1 == place)).map Prod.snd

/-- Puts an entry: in place of the one there, or at the end. -/
def putEntry (place : Place) (entry : Entry) : List (Place × Entry) → List (Place × Entry)
  | [] => [(place, entry)]
  | (p, e) :: rest => if p = place then (p, entry) :: rest else (p, e) :: putEntry place entry rest

/-- Sets what stands at a place. -/
def set (tree : FileTree) (place : Place) (entry : Entry) : FileTree :=
  ⟨putEntry place entry tree.entries⟩

/-- Removes a place and everything under it. -/
def remove (tree : FileTree) (place : Place) : FileTree :=
  ⟨tree.entries.filter fun e => !place.isPrefixOf e.1⟩

/-- The names in a directory. -/
def names (tree : FileTree) (place : Place) : List String :=
  tree.entries.filterMap fun e => if e.1.dropLast = place then e.1.getLast? else none

/-- Does a file stand at a place? -/
def isFileAt (tree : FileTree) (place : Place) : Bool :=
  match tree.at? place with
  | some (.file _ _) => true
  | _ => false

/-- Does a directory stand at a place? -/
def isDirectoryAt (tree : FileTree) (place : Place) : Bool :=
  tree.at? place == some .directory

theorem find?_putEntry_self (place : Place) (entry : Entry) (es : List (Place × Entry)) :
    (putEntry place entry es).find? (·.1 == place) = some (place, entry) := by
  induction es with
  | nil => simp [putEntry]
  | cons e rest ih =>
    by_cases h : e.1 = place
    · simp [putEntry, h]
    · simp [putEntry, h, ih]

theorem find?_putEntry_of_ne {place other : Place} (h : other ≠ place) (entry : Entry)
    (es : List (Place × Entry)) :
    ((putEntry place entry es).find? (·.1 == other)).map Prod.snd =
      (es.find? (·.1 == other)).map Prod.snd := by
  induction es with
  | nil => simp [putEntry, Ne.symm h]
  | cons e rest ih =>
    by_cases hp : e.1 = place
    · simp [putEntry, hp, Ne.symm h]
    · by_cases ho : e.1 = other
      · simp [putEntry, ho, h]
      · simp [putEntry, hp, ho, ih]

theorem at?_set_self {tree : FileTree} {place : Place} (h : place ≠ []) (entry : Entry) :
    (tree.set place entry).at? place = some entry := by
  simp only [at?, set, if_neg h, find?_putEntry_self, Option.map_some]

theorem at?_set_of_ne (tree : FileTree) {place other : Place} (h : other ≠ place)
    (entry : Entry) : (tree.set place entry).at? other = tree.at? other := by
  simp only [at?, set, find?_putEntry_of_ne h]

/-- Removing a place takes away what lies at and under it, and nothing else. -/
theorem at?_remove (tree : FileTree) (place : Place) {other : Place} (h : other ≠ []) :
    (tree.remove place).at? other = if place.isPrefixOf other then none else tree.at? other := by
  simp only [at?, remove, if_neg h, List.find?_filter]
  by_cases hp : place.isPrefixOf other
  · rw [if_pos hp, List.find?_eq_none.2]
    · rfl
    · intro e _ hn
      obtain ⟨hn, he⟩ := of_decide_eq_true hn
      rw [eq_of_beq he, hp] at hn
      cases hn
  · rw [if_neg hp]
    congr 2
    funext e
    by_cases he : e.1 = other
    · simp [he, hp]
    · simp [he]

end FileTree
end MockServer
