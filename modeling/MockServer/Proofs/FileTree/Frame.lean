/-
What operations on files leave as it was.

Two trees are compared by what stands at their places: they may be the same but for the mode
of one file, but for new directories, or outside one place.  Main statements:

* `sameButMode_of_makeExecutable` — making a file executable changes its mode alone;
* `makeDirectories_induction` — what every new directory keeps is kept by the making of a
  path, also where that fails half-way;
* `directoriesMade_makeDirectories` — it makes directories at the path and above it alone;
* `exists_resolve_of_write` — a file is written at the end of its path;
* `write_join` — what is written under a path to a directory stays in that directory;
* `sameOutside_remove`, `isGone_remove` — a place is removed with all under it, and nothing
  else is.
-/
import Mathlib.Data.List.Induction
import MockServer.Proofs.FileTree.Resolve

namespace MockServer.FileTree

variable {before after tree tree' : FileTree} {directory place root : Place} {path : String}

/-! ### Modes -/

/-- Two trees are the same but for the mode of the file at a path. -/
def SameButMode (directory : Place) (path : String) (before after : FileTree) : Prop :=
  ∀ place, after.at? place = before.at? place ∨
    ∃ content executable,
      before.find directory path = .ok (place, .file content executable) ∧
        after.at? place = some (.file content true)

theorem SameButMode.refl (directory : Place) (path : String) (tree : FileTree) :
    SameButMode directory path tree tree :=
  fun _ => .inl rfl

/-- Making a file executable changes no more than its mode. -/
theorem sameButMode_of_makeExecutable (h : tree.makeExecutable directory path = .ok tree') :
    SameButMode directory path tree tree' := by
  obtain ⟨⟨place, entry⟩, hfind, hset⟩ := bind_eq_ok_iff.1 h
  cases entry with
  | directory =>
    cases hset
    exact .refl _ _ _
  | file content executable =>
    cases hset
    obtain ⟨-, hat⟩ := find_eq_ok_iff.1 hfind
    have hplace : place ≠ [] := by
      rintro rfl
      cases hat
    intro other
    by_cases hother : other = place
    · rw [hother]
      exact .inr ⟨content, executable, hfind, at?_set_self hplace _⟩
    · exact .inl (at?_set_of_ne tree hother _)

/-! ### New directories -/

/-- Two trees are the same but for directories that are new, at a path or above it. -/
def DirectoriesMade (directory : Place) (path : String) (before after : FileTree) : Prop :=
  ∀ place, after.at? place = before.at? place ∨
    before.at? place = none ∧ after.at? place = some .directory ∧
      ∃ above, Path.AtOrAbove path above ∧ after.resolve directory above = .ok place

theorem DirectoriesMade.refl (directory : Place) (path : String) (tree : FileTree) :
    DirectoriesMade directory path tree tree :=
  fun _ => .inl rfl

theorem DirectoriesMade.set {above : String} (h : DirectoriesMade directory path before after)
    (habove : Path.AtOrAbove path above) (hfree : after.freePlace directory above = .ok place) :
    DirectoriesMade directory path before (after.set place .directory) := by
  have hkeeps := keeps_set_of_freePlace hfree
  have hnone := at?_of_freePlace hfree
  intro other
  by_cases hother : other = place
  · rw [hother]
    right
    refine ⟨?_, at?_set_self (ne_nil_of_at?_eq_none hnone) _, above, habove,
      resolve_of_freePlace hfree⟩
    rcases h place with hsame | ⟨hbefore, -⟩
    · rw [← hsame, hnone]
    · exact hbefore
  · rw [at?_set_of_ne after hother]
    rcases h other with hsame | ⟨hbefore, hafter, q, hq, hresolve⟩
    · exact .inl hsame
    · exact .inr ⟨hbefore, hafter, q, hq, resolve_of_keeps hkeeps hresolve⟩

/-- Every entry stands in a directory. -/
def IsClosed (tree : FileTree) : Prop :=
  ∀ place name, tree.at? (place ++ [name]) ≠ none → tree.at? place = some .directory

/-- Nothing stands under a place at which nothing stands. -/
theorem IsClosed.at?_eq_none (h : tree.IsClosed) (hroot : tree.at? root = none)
    (hplace : root <+: place) : tree.at? place = none := by
  obtain ⟨rest, rfl⟩ := hplace
  induction rest using List.reverseRecOn with
  | nil => rwa [List.append_nil]
  | append_singleton rest name ih =>
    by_contra hsome
    rw [← List.append_assoc] at hsome
    cases (h (root ++ rest) name hsome).symm.trans ih

theorem IsClosed.set (h : tree.IsClosed) (hfree : tree.freePlace directory path = .ok place) :
    (tree.set place .directory).IsClosed := by
  obtain ⟨here, last, hplace, hhere⟩ := exists_parent_of_freePlace hfree
  have hnone := at?_of_freePlace hfree
  have hkeeps := keeps_set_of_freePlace hfree
  intro other name hother
  by_cases hnew : other ++ [name] = place
  · rw [hplace] at hnew
    rw [(List.append_inj' hnew rfl).1]
    exact hkeeps here hhere
  · rw [at?_set_of_ne tree hnew] at hother
    exact hkeeps other (h other name hother)

/-! ### Making directories -/

/-- Making a directory where there is none, or finding it there: what holds of trees that get
new directories holds behind it. -/
theorem ensureDirectory_induction {P : FileTree → Prop} (h : P tree)
    (step : ∀ place, tree.freePlace directory path = .ok place → P (tree.set place .directory)) :
    P (tree.ensureDirectory directory path).1 := by
  rw [ensureDirectory, makeDirectory]
  cases hfree : tree.freePlace directory path with
  | ok place => exact step place hfree
  | error fault =>
    show P (if tree.isDirectory directory path = true then ((tree, .ok ()) : Changed)
      else (tree, .error fault)).1
    split <;> exact h

theorem exists_freePlace_of_makeDirectory (h : tree.makeDirectory directory path = .ok tree') :
    ∃ place, tree.freePlace directory path = .ok place ∧ tree' = tree.set place .directory := by
  rw [makeDirectory] at h
  cases hfree : tree.freePlace directory path with
  | error fault =>
    rw [hfree] at h
    cases h
  | ok place =>
    rw [hfree] at h
    cases h
    exact ⟨place, rfl, rfl⟩

/-- What holds of a tree and is kept by every directory that is made, at a path or above it,
holds once the path was made, also where that fails half-way. -/
theorem makeDirectoriesFrom_induction {P : FileTree → Prop}
    (step : ∀ t above place, Path.AtOrAbove path above → t.freePlace directory above = .ok place →
      P t → P (t.set place .directory))
    (fuel : Nat) {q : String} (hq : Path.AtOrAbove path q) (h : P tree) :
    P (makeDirectoriesFrom directory fuel tree q).1 := by
  induction fuel generalizing tree q with
  | zero => exact ensureDirectory_induction h fun place hfree => step tree q place hq hfree h
  | succ fuel ih =>
    rw [makeDirectoriesFrom]
    split
    · exact h
    · split
      · rename_i changed hmake
        obtain ⟨place, hfree, rfl⟩ := exists_freePlace_of_makeDirectory hmake
        exact step tree q place hq hfree h
      · split
        · exact h
        · rename_i parent hparent
          -- The directory above is made first, and then the path is tried once more.
          have hmade : P (makeDirectoriesFrom directory fuel tree parent).1 :=
            ih (hq.up hparent) h
          rcases hresult : makeDirectoriesFrom directory fuel tree parent with ⟨changed, fault | _⟩
          · rw [hresult] at hmade
            exact hmade
          · rw [hresult] at hmade
            exact ensureDirectory_induction hmade fun place hfree =>
              step changed q place hq hfree hmade
      · split <;> exact h

theorem makeDirectories_induction {P : FileTree → Prop}
    (step : ∀ t above place, Path.AtOrAbove path above → t.freePlace directory above = .ok place →
      P t → P (t.set place .directory)) (h : P tree) :
    P (tree.makeDirectories directory path).1 :=
  makeDirectoriesFrom_induction step _ .here h

/-- The making of a directory changes no more than it makes. -/
theorem directoriesMade_makeDirectories (tree : FileTree) (directory : Place) (path : String) :
    DirectoriesMade directory path tree (tree.makeDirectories directory path).1 :=
  makeDirectories_induction (fun _ _ _ habove hfree h => h.set habove hfree) (.refl _ _ tree)

theorem isClosed_makeDirectories (h : tree.IsClosed) (directory : Place) (path : String) :
    (tree.makeDirectories directory path).1.IsClosed :=
  makeDirectories_induction (fun _ _ _ _ hfree ht => ht.set hfree) h

/-- A directory that is there need not be made. -/
theorem makeDirectories_of_exists (hpath : path ≠ "")
    (hfree : tree.freePlace directory path = .error .alreadyExists)
    (hdirectory : tree.isDirectory directory path = true) :
    tree.makeDirectories directory path = (tree, .ok ()) := by
  rw [makeDirectories, makeDirectoriesFrom, if_neg hpath, makeDirectory, hfree]
  exact if_pos hdirectory

/-! ### Contents -/

/-- What a file holds; no other thing holds anything. -/
def content? (tree : FileTree) (place : Place) : Option (List UInt8) :=
  match tree.at? place with
  | some (.file content _) => some content
  | _ => none

/-- Two trees have the same files, and these hold the same. -/
def SameFiles (before after : FileTree) : Prop :=
  ∀ place, after.content? place = before.content? place

theorem content?_set_self (h : place ≠ []) (content : List UInt8) (executable : Bool) :
    (tree.set place (.file content executable)).content? place = some content := by
  rw [content?, at?_set_self h]

/-- New directories take the place of no file. -/
theorem DirectoriesMade.sameFiles {before after : FileTree}
    (h : DirectoriesMade directory path before after) : SameFiles before after := by
  intro place
  rw [content?, content?]
  obtain hsame | ⟨hbefore, hafter, -⟩ := h place
  · rw [hsame]
  · rw [hbefore, hafter]

/-! ### Places outside a directory -/

/-- Two trees are the same outside a place and what lies under it. -/
def SameOutside (root : Place) (before after : FileTree) : Prop :=
  ∀ place, ¬ root <+: place → after.at? place = before.at? place

/-- Nothing stands at a place, nor under it. -/
def IsGone (root : Place) (tree : FileTree) : Prop :=
  ∀ place, root <+: place → tree.at? place = none

theorem SameOutside.refl (root : Place) (tree : FileTree) : SameOutside root tree tree :=
  fun _ _ => rfl

theorem SameOutside.trans {a b c : FileTree} (hab : SameOutside root a b)
    (hbc : SameOutside root b c) : SameOutside root a c :=
  fun place hplace => (hbc place hplace).trans (hab place hplace)

theorem sameOutside_set (tree : FileTree) (h : root <+: place) (entry : Entry) :
    SameOutside root tree (tree.set place entry) := by
  intro other hother
  refine at?_set_of_ne tree ?_ entry
  rintro rfl
  exact hother h

theorem sameOutside_remove (root : Place) (tree : FileTree) :
    SameOutside root tree (tree.remove root) := by
  intro place hplace
  by_cases hnil : place = []
  · rw [hnil]
    rfl
  · rw [at?_remove tree root hnil, if_neg (by rwa [List.isPrefixOf_iff_prefix])]

theorem isGone_remove (hroot : root ≠ []) (tree : FileTree) : IsGone root (tree.remove root) := by
  intro place hplace
  have hnil : place ≠ [] := by
    rintro rfl
    exact hroot (List.prefix_nil.1 hplace)
  rw [at?_remove tree root hnil, if_pos (List.isPrefixOf_iff_prefix.2 hplace)]

/-! ### Writing -/

/-- A file is written at the target of its path, which has no slash at its end, where no
directory is. -/
theorem exists_target_of_write {content : List UInt8}
    (h : tree.write directory path content = .ok tree') :
    ∃ target name executable, tree.target directory path = .ok target ∧ target.name = some name ∧
      target.slash = false ∧ tree.at? (target.directory ++ [name]) ≠ some .directory ∧
      tree' = tree.set (target.directory ++ [name]) (.file content executable) := by
  obtain ⟨target, htarget, h⟩ := bind_eq_ok_iff.1 h
  cases hname : target.name with
  | none =>
    rw [hname] at h
    cases h
  | some name =>
    simp only [hname] at h
    split at h
    · cases h
    · rename_i hslash
      have hslash : target.slash = false := by simpa using hslash
      split at h
      · cases h
      · rename_i content' executable hat
        cases h
        exact ⟨target, name, executable, htarget, hname, hslash, by rw [hat]; nofun, rfl⟩
      · rename_i hat
        cases h
        exact ⟨target, name, false, htarget, hname, hslash, by rw [hat]; nofun, rfl⟩

/-- A file is written at the end of its path, where no directory is. -/
theorem exists_resolve_of_write {content : List UInt8}
    (h : tree.write directory path content = .ok tree') :
    ∃ place executable, tree.resolve directory path = .ok place ∧
      tree.at? place ≠ some .directory ∧ tree' = tree.set place (.file content executable) := by
  obtain ⟨target, name, executable, htarget, hname, hslash, hplace, rfl⟩ :=
    exists_target_of_write h
  exact ⟨_, executable, resolve_of_target htarget hname hslash, hplace, rfl⟩

/-- A file written under a path to a directory is in that directory, and the path leads there
still. -/
theorem write_join {name : String} {content : List UInt8} (hname : Path.IsName name)
    (hresolve : tree.resolve directory path = .ok root)
    (h : tree.write directory (Path.join path name) content = .ok tree') :
    SameOutside root tree tree' ∧ tree.Keeps tree' := by
  obtain ⟨target, name', executable, htarget, -, -, hplace, rfl⟩ := exists_target_of_write h
  obtain ⟨hdirectory, -⟩ := target_join hname hresolve htarget
  refine ⟨sameOutside_set tree ?_ _, keeps_set hplace _⟩
  rw [hdirectory]
  exact List.prefix_append root [name']

end MockServer.FileTree
