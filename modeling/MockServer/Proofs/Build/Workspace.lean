/-
Making workspaces.

`makeOn` says what the making of a workspace comes to on some files and what it leaves
there: the directory for workspaces is made where it was configured, and the workspace is a
new directory in it, under the first name drawn that is not taken.  Main statements:

* `choose_eq_iff` — what the choice of a place comes to;
* `makeOn_eq_error_iff` — why a workspace cannot be made;
* `comes_make` — what the task does is what `makeOn` says;
* `comes_use` — work in a workspace leaves the files without that workspace.
-/
import MockServer.Build.Workspace
import MockServer.Proofs.Machine.Task

namespace MockServer.Build.Workspace

open MockServer.Task

variable {quiet : Log.Event → Prop} {setting : Setting} {config : Config} {tree : FileTree}

/-- The directory for workspaces, and the files once it was made. -/
def parentOn (setting : Setting) (config : Config) (tree : FileTree) :
    Except Fault String × FileTree :=
  match config.scratchDirectory with
  | none => (.ok setting.temporaryDirectory, tree)
  | some path =>
    match tree.makeDirectories setting.directory path with
    | (above, .ok ()) => (.ok path, above)
    | (above, .error fault) => (.error (.workspace fault.message), above)

/-- The files with the workspace that was chosen. -/
def enteredOn (tree : FileTree) : Except Fault Workspace → FileTree
  | .error _ => tree
  | .ok workspace => tree.set workspace.place .directory

/-- A new workspace, and what its making leaves. -/
def makeOn (setting : Setting) (config : Config) (tree : FileTree) :
    Except Fault Workspace × FileTree :=
  match parentOn setting config tree with
  | (.error fault, above) => (.error fault, above)
  | (.ok parent, above) =>
    let chosen := choose setting above (Path.join setting.directoryPath parent) tries
    (chosen, enteredOn above chosen)

/-! ### Names -/

/-- The names that are drawn before the `n`-th are taken in a directory. -/
def Taken (setting : Setting) (tree : FileTree) (base : String) (n : Nat) : Prop :=
  ∀ k < n, placeAt setting tree base k = .error .alreadyExists

/-- What the choice of a workspace may come to: the first name that is not taken has a free
place, or none for another reason, or all names that are tried are taken. -/
inductive Chooses (setting : Setting) (tree : FileTree) (base : String) (tries : Nat) :
    Except Fault Workspace → Prop where
  | free {n : Nat} {place : Place} (short : n < tries) (taken : Taken setting tree base n)
      (free : placeAt setting tree base n = .ok place) :
      Chooses setting tree base tries (.ok ⟨pathAt setting base n, place⟩)
  | barred {n : Nat} {fault : FileFault} (short : n < tries) (taken : Taken setting tree base n)
      (fails : placeAt setting tree base n = .error fault) (other : fault ≠ .alreadyExists) :
      Chooses setting tree base tries (.error (.workspace
        (fault.message ++ " at path " ++ Text.quotedArgument (pathAt setting base n))))
  | crowded (taken : Taken setting tree base tries) :
      Chooses setting tree base tries (.error (.workspace
        ("too many temporary files exist at path " ++ Text.quotedArgument base)))

section

variable {base : String} {tries n : Nat}

theorem isTaken_eq_true_iff {found : Except FileFault Place} :
    isTaken found = true ↔ found = .error .alreadyExists := by
  cases found with
  | ok place => exact iff_of_false Bool.false_ne_true nofun
  | error fault => cases fault <;> simp [isTaken]

theorem find?_isTaken_eq_some_iff :
    (List.range tries).find? (fun n => !isTaken (placeAt setting tree base n)) = some n ↔
      n < tries ∧ placeAt setting tree base n ≠ .error .alreadyExists ∧
        Taken setting tree base n := by
  simp only [List.find?_range_eq_some, List.mem_range, Bool.not_eq_true', Bool.not_not,
    ← Bool.not_eq_true, isTaken_eq_true_iff]
  exact and_left_comm

theorem find?_isTaken_eq_none_iff :
    (List.range tries).find? (fun n => !isTaken (placeAt setting tree base n)) = none ↔
      Taken setting tree base tries := by
  simp only [List.find?_range_eq_none, Bool.not_not, isTaken_eq_true_iff, Taken]

theorem choose_eq_iff {result : Except Fault Workspace} :
    choose setting tree base tries = result ↔ Chooses setting tree base tries result := by
  unfold choose
  constructor
  · rintro rfl
    cases hfind : (List.range tries).find? fun n => !isTaken (placeAt setting tree base n) with
    | none => exact .crowded (find?_isTaken_eq_none_iff.1 hfind)
    | some n =>
      obtain ⟨short, hfree, taken⟩ := find?_isTaken_eq_some_iff.1 hfind
      dsimp only
      cases hplace : placeAt setting tree base n with
      | ok place => exact .free short taken hplace
      | error fault =>
        rw [hplace] at hfree
        exact .barred short taken hplace fun h => hfree (congrArg _ h)
  · intro h
    cases h with
    | free short taken free =>
      have hfree := find?_isTaken_eq_some_iff.2 ⟨short, by rw [free]; nofun, taken⟩
      simp only [hfree, free, ofPlace]
    | barred short taken fails other =>
      have hfree := find?_isTaken_eq_some_iff.2
        ⟨short, by rw [fails]; exact fun h => other (Except.error.inj h), taken⟩
      simp only [hfree, fails, ofPlace, notMade]
    | crowded taken => simp only [find?_isTaken_eq_none_iff.2 taken, Workspace.crowded]

end

/-- Why a workspace cannot be made on some files: the configured directory for workspaces cannot
be, or there is no place for the workspace in the directory. -/
inductive Unmade (setting : Setting) (config : Config) (tree : FileTree) : Fault → Prop where
  | parentless {path : String} {fault : FileFault} (configured : config.scratchDirectory = some path)
      (fails : (tree.makeDirectories setting.directory path).2 = .error fault) :
      Unmade setting config tree (.workspace fault.message)
  | placeless {parent : String} {above : FileTree} {fault : Fault}
      (parented : parentOn setting config tree = (.ok parent, above))
      (fails : Chooses setting above (Path.join setting.directoryPath parent) tries (.error fault)) :
      Unmade setting config tree fault

theorem unmade_of_parentOn {above : FileTree} {fault : Fault}
    (h : parentOn setting config tree = (.error fault, above)) : Unmade setting config tree fault := by
  rw [parentOn] at h
  cases hpath : config.scratchDirectory with
  | none =>
    rw [hpath] at h
    cases h
  | some path =>
    rw [hpath] at h
    dsimp only at h
    rcases hmade : tree.makeDirectories setting.directory path with ⟨made, f | _⟩
    · rw [hmade] at h
      cases h
      exact .parentless hpath (congrArg Prod.snd hmade)
    · rw [hmade] at h
      cases h

theorem makeOn_eq_error_iff {fault : Fault} :
    (makeOn setting config tree).1 = .error fault ↔ Unmade setting config tree fault := by
  constructor
  · intro h
    rw [makeOn] at h
    rcases hparent : parentOn setting config tree with ⟨f | parent, above⟩
    · rw [hparent] at h
      cases h
      exact unmade_of_parentOn hparent
    · rw [hparent] at h
      exact .placeless hparent (choose_eq_iff.1 h)
  · intro h
    cases h with
    | @parentless path f configured fails =>
      rcases hmade : tree.makeDirectories setting.directory path with ⟨above, result⟩
      rw [hmade] at fails
      cases fails
      simp only [makeOn, parentOn, configured, hmade]
    | placeless parented fails =>
      rw [makeOn, parented]
      exact choose_eq_iff.2 fails

/-! ### Making and using -/

theorem comes_parentDirectory (setting : Setting) (config : Config) (tree : FileTree) :
    Comes quiet (parentDirectory setting config) tree (parentOn setting config tree).1
      (parentOn setting config tree).2 [] := by
  rw [parentDirectory, parentOn]
  cases config.scratchDirectory with
  | none => exact comes_pure tree _
  | some path =>
    dsimp only
    have hchange : Comes quiet (change (·.makeDirectories setting.directory path)
        fun f => Fault.workspace f.message) tree _ _ [] := comes_change _ _ tree
    rcases hmade : tree.makeDirectories setting.directory path with ⟨above, fault | _⟩
    · rw [hmade] at hchange
      exact comes_bind_error hchange
    · rw [hmade] at hchange
      exact comes_bind hchange (comes_pure above path)

theorem comes_enter (tree : FileTree) (chosen : Except Fault Workspace)
    (hquiet : ∀ workspace, quiet (created workspace)) :
    Comes quiet (enter tree chosen) tree chosen (enteredOn tree chosen) [] := by
  cases chosen with
  | error fault => exact comes_throw tree fault
  | ok workspace =>
    exact comes_bind (comes_setTree tree _)
      (comes_bind (comes_tell _ (hquiet _)) (comes_pure _ _))

theorem comes_make (setting : Setting) (config : Config) (tree : FileTree)
    (hquiet : ∀ workspace, quiet (created workspace)) :
    Comes quiet (make setting config) tree (makeOn setting config tree).1
      (makeOn setting config tree).2 [] := by
  have hparent : Comes quiet _ tree _ _ [] := comes_parentDirectory setting config tree
  rw [make, makeOn]
  rcases hon : parentOn setting config tree with ⟨fault | parent, above⟩
  · rw [hon] at hparent
    exact comes_bind_error hparent
  · rw [hon] at hparent
    exact comes_bind hparent (comes_tree_bind (comes_enter above _ hquiet))

/-- Work in a workspace leaves the files without that workspace. -/
theorem comes_use {α : Type} {work : Workspace → Task Fault α} {workspace : Workspace}
    {tree tree' : FileTree} {result : Except Fault α} {launches : List Launch}
    (hquiet : ∀ workspace, quiet (created workspace))
    (made : (makeOn setting config tree).1 = .ok workspace)
    (worked : Comes quiet (work workspace) (makeOn setting config tree).2 result tree' launches) :
    Comes quiet (use setting config work) tree result (tree'.remove workspace.place) launches := by
  have hmake : Comes quiet (make setting config) tree _ _ [] := comes_make setting config tree hquiet
  rw [made] at hmake
  refine comes_bind hmake ?_
  constructor
  intro m hm
  obtain ⟨events, hevents, hrun⟩ := worked.exists_run_eq m hm
  refine ⟨events, hevents, ?_⟩
  -- The removal is run on what the work leaves, also where the work ends in a fault.
  show (((work workspace).run.run m).1,
    (discard workspace ((work workspace).run.run m).2).2) = _
  rw [hrun]
  rfl

theorem comes_use_error {α : Type} {work : Workspace → Task Fault α} {fault : Fault}
    (hquiet : ∀ workspace, quiet (created workspace))
    (made : (makeOn setting config tree).1 = .error fault) :
    Comes quiet (use setting config work) tree (.error fault) (makeOn setting config tree).2 [] := by
  have hmake : Comes quiet (make setting config) tree _ _ [] := comes_make setting config tree hquiet
  rw [made] at hmake
  exact comes_bind_error hmake

end MockServer.Build.Workspace
