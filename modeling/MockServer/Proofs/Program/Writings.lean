/-
Many writings, one after the other.

A writing puts a program into a directory or one text at a path, by force or not, and it may fail
half-way.  A file belongs to a writing where one of its paths leads to that file once the writing
is over, so paths that pass through directories that the writing itself makes are counted in.
Main statements:

* `leaves_run` — what one writing leaves: but by force it changes no file, it changes none that
  is not its own, and where it succeeds its own files hold what was given;
* `content?_after` — by induction on the writings, a file keeps its content as long as it belongs
  to no writing that is forced;
* `writings_keep_files` — what any number of writings leaves.
-/
import Mathlib.Data.List.Induction
import MockServer.Proofs.Program.HalfWritten

namespace MockServer.Program

open MockServer.Task FileTree

/-- A program to be put into a directory, or a text at a path. -/
inductive Writing where
  | ofProgram (program : Program) (directory : String) (force : Bool)
  | ofText (path text : String) (force : Bool)

namespace Writing

/-- Is a writing forced? -/
def force : Writing → Bool
  | .ofProgram _ _ force => force
  | .ofText _ _ force => force

/-- The paths of a writing, each with the text that belongs there. -/
def files : Writing → List (String × String)
  | .ofProgram program directory _ => [(Path.join directory mainName, program.mainFile),
      (Path.join directory moduleName, program.moduleFile)]
  | .ofText path text _ => [(path, text)]

/-- Does a writing; true where it succeeds. -/
def run (setting : Setting) : Writing → StateM Machine Bool
  | .ofProgram program directory force => do
    return (← (program.write setting directory force).run).isOk
  | .ofText path text force => do return (← (writeText setting path text force).run).isOk

/-- A place belongs to a writing where one of its paths leads there. -/
def Targets (setting : Setting) (writing : Writing) (tree : FileTree) (place : Place) : Prop :=
  ∃ file ∈ writing.files, tree.resolve setting.directory file.1 = .ok place

/-- What a writing leaves of the files, whether it succeeded or not. -/
structure Leaves (setting : Setting) (writing : Writing) (before after : FileTree)
    (succeeded : Bool) : Prop where
  kept : writing.force = false → ∀ place content,
    before.content? place = some content → after.content? place = some content
  elsewhere : ∀ place, ¬ writing.Targets setting after place →
    after.content? place = before.content? place
  written : succeeded = true → ∀ file ∈ writing.files,
    ∃ home, after.resolve setting.directory file.1 = .ok home
      ∧ after.content? home = some (Text.encode file.2)
      ∧ (writing.force = false → before.at? home = none)

/-! ### One writing -/

section

variable {setting : Setting} {before after : FileTree}

/-- A writing that failed before any file was written. -/
theorem leaves_of_sameFiles (writing : Writing) (h : SameFiles before after) :
    Leaves setting writing before after false where
  kept := by
    intro _ place content hplace
    rw [h place, hplace]
  elsewhere := fun place _ => h place
  written := nofun

theorem leaves_text_ok {path text : String} {force : Bool}
    (h : textOn setting.directory path text force before = .ok after) :
    Leaves setting (.ofText path text force) before after true := by
  obtain ⟨home, hput⟩ := exists_put_of_textOn h
  constructor
  · intro hforce place content hplace
    exact hput.content?_kept hforce hplace
  · intro place hplace
    refine hput.content?_of_ne ?_
    rintro rfl
    exact hplace ⟨_, List.mem_singleton_self _, hput.resolve_after⟩
  · intro _ file hfile
    cases List.mem_singleton.1 hfile
    exact ⟨home, hput.resolve_after, hput.content?_self, hput.free⟩

variable {program : Program} {directory : String} {force : Bool} {made half : FileTree}
  {mainHome moduleHome : Place}

/-- A program of which only the main file was written. -/
theorem leaves_program_half (hmade : DirectoriesMade setting.directory directory before made)
    (hmain : Put setting.directory (Path.join directory mainName) program.mainFile force made after
      mainHome) :
    Leaves setting (.ofProgram program directory force) before after false := by
  have hsame : SameFiles before made := hmade.sameFiles
  constructor
  · intro hforce place content hplace
    rw [← hsame place] at hplace
    exact hmain.content?_kept hforce hplace
  · intro place hplace
    have hne : place ≠ mainHome := by
      rintro rfl
      exact hplace ⟨_, List.mem_cons_self, hmain.resolve_after⟩
    rw [hmain.content?_of_ne hne, hsame place]
  · exact nofun

/-- A program of which both files were written. -/
theorem leaves_program_whole (hmade : DirectoriesMade setting.directory directory before made)
    (hmain : Put setting.directory (Path.join directory mainName) program.mainFile force made half
      mainHome)
    (hmodule : Put setting.directory (Path.join directory moduleName) program.moduleFile force half
      after moduleHome) :
    Leaves setting (.ofProgram program directory force) before after true := by
  have hsame : SameFiles before made := hmade.sameFiles
  have hmainAfter : after.resolve setting.directory (Path.join directory mainName) = .ok mainHome :=
    resolve_of_keeps hmodule.keeps hmain.resolve_after
  -- The second file is not the first one, for the last names of their places differ.
  have hne : mainHome ≠ moduleHome := by
    rintro rfl
    have hlast := getLast?_of_resolve_join isName_mainName hmain.resolve_eq
    rw [getLast?_of_resolve_join isName_moduleName hmodule.resolve_eq] at hlast
    exact absurd hlast (by decide)
  -- Where nothing stands once the directories were made, nothing stood before.
  have hfree : ∀ {home : Place}, made.at? home = none → before.at? home = none := by
    intro home hnone
    obtain hat | ⟨hbefore, -⟩ := hmade home
    · rw [← hat, hnone]
    · exact hbefore
  constructor
  · intro hforce place content hplace
    rw [← hsame place] at hplace
    exact hmodule.content?_kept hforce (hmain.content?_kept hforce hplace)
  · intro place hplace
    have hmainNe : place ≠ mainHome := by
      rintro rfl
      exact hplace ⟨_, List.mem_cons_self, hmainAfter⟩
    have hmoduleNe : place ≠ moduleHome := by
      rintro rfl
      exact hplace ⟨_, List.mem_cons_of_mem _ List.mem_cons_self, hmodule.resolve_after⟩
    rw [hmodule.content?_of_ne hmoduleNe, hmain.content?_of_ne hmainNe, hsame place]
  · intro _ file hfile
    rcases List.mem_cons.1 hfile with rfl | hfile
    · refine ⟨mainHome, hmainAfter, ?_, fun hforce => hfree (hmain.free hforce)⟩
      rw [hmodule.content?_of_ne hne, hmain.content?_self]
    · cases List.mem_singleton.1 hfile
      refine ⟨moduleHome, hmodule.resolve_after, hmodule.content?_self, fun hforce => ?_⟩
      have hnone := hmodule.free hforce
      rw [hmain.at?_of_ne (Ne.symm hne)] at hnone
      exact hfree hnone

theorem leaves_filesOn (program : Program) (directory : String) (force : Bool) (tree : FileTree) :
    Leaves setting (.ofProgram program directory force) tree
      (filesOn setting.directory program directory force tree).2
      (filesOn setting.directory program directory force tree).1.isOk := by
  have hmade := directoriesMade_makeDirectories tree setting.directory directory
  rw [filesOn]
  rcases hmake : tree.makeDirectories setting.directory directory with ⟨made, fault | _⟩
  · rw [hmake] at hmade
    exact leaves_of_sameFiles _ hmade.sameFiles
  rw [hmake] at hmade
  dsimp only
  cases hmain : textOn setting.directory (Path.join directory mainName) program.mainFile force
      made with
  | error fault => exact leaves_of_sameFiles _ hmade.sameFiles
  | ok half =>
    obtain ⟨mainHome, hput⟩ := exists_put_of_textOn hmain
    dsimp only
    cases hmodule : textOn setting.directory (Path.join directory moduleName) program.moduleFile
        force half with
    | error fault => exact leaves_program_half hmade hput
    | ok whole =>
      obtain ⟨moduleHome, hput'⟩ := exists_put_of_textOn hmodule
      exact leaves_program_whole hmade hput hput'

end

theorem isOk_map {ε α β : Type} (f : α → β) (result : Except ε α) :
    (result.map f).isOk = result.isOk := by
  cases result <;> rfl

/-- **What one writing leaves.** -/
theorem leaves_run (setting : Setting) (writing : Writing) (m : Machine) :
    Leaves setting writing m.tree ((writing.run setting).run m).2.tree
      ((writing.run setting).run m).1 := by
  cases writing with
  | ofProgram program directory force =>
    have hcomes : Comes (fun _ => True) (program.write setting directory force) m.tree _ _ [] :=
      comes_write program directory force m.tree fun _ _ => trivial
    obtain ⟨events, -, hrun⟩ := hcomes.exists_run_eq m rfl
    have hleaves : Leaves setting (.ofProgram program directory force) m.tree _ _ :=
      leaves_filesOn program directory force m.tree
    show Leaves setting _ m.tree ((program.write setting directory force).run.run m).2.tree
      ((program.write setting directory force).run.run m).1.isOk
    rw [hrun, isOk_map]
    exact hleaves
  | ofText path text force =>
    show Leaves setting _ m.tree ((writeText setting path text force).run.run m).2.tree
      ((writeText setting path text force).run.run m).1.isOk
    cases htext : textOn setting.directory path text force m.tree with
    | error fault =>
      have hcomes : Comes (fun _ => True) (writeText setting path text force) m.tree _ _ [] :=
        comes_writeText_error htext
      obtain ⟨events, -, hrun⟩ := hcomes.exists_run_eq m rfl
      rw [hrun]
      exact leaves_of_sameFiles _ fun _ => rfl
    | ok tree' =>
      have hcomes : Comes (fun _ => True) (writeText setting path text force) m.tree _ _ [] :=
        comes_writeText_ok trivial htext
      obtain ⟨events, -, hrun⟩ := hcomes.exists_run_eq m rfl
      rw [hrun]
      exact leaves_text_ok htext

/-! ### Many writings -/

/-- The machine after some writings, whether they succeeded or not. -/
def after (setting : Setting) (writings : List Writing) (m : Machine) : Machine :=
  writings.foldl (fun m writing => ((writing.run setting).run m).2) m

theorem after_append (writings more : List Writing) (m : Machine) :
    Writing.after setting (writings ++ more) m =
      Writing.after setting more (Writing.after setting writings m) :=
  List.foldl_append

/-- No forced writing of a run comes upon a place. -/
def IsSpared (setting : Setting) (writings : List Writing) (m : Machine) (place : Place) : Prop :=
  ∀ earlier writing, earlier ++ [writing] <+: writings → writing.force = true →
    ¬ writing.Targets setting (Writing.after setting (earlier ++ [writing]) m).tree place

/-- A file keeps its content as long as no forced writing comes upon it. -/
theorem content?_after {setting : Setting} {writings : List Writing} {m : Machine} {place : Place}
    {content : List UInt8} (hspared : IsSpared setting writings m place)
    (h : m.tree.content? place = some content) :
    (Writing.after setting writings m).tree.content? place = some content := by
  induction writings using List.reverseRecOn with
  | nil => exact h
  | append_singleton writings writing ih =>
    have hbefore := ih fun earlier w hearlier hforce =>
      hspared earlier w (hearlier.trans (List.prefix_append _ _)) hforce
    have hleaves := leaves_run setting writing (Writing.after setting writings m)
    have hlast := hspared writings writing (List.prefix_refl _)
    rw [after_append] at hlast ⊢
    cases hforce : writing.force with
    | false => exact hleaves.kept hforce place content hbefore
    | true => exact (hleaves.elsewhere place (hlast hforce)).trans hbefore

/-- **Writings and the files that are there.**  In any run of writings, each leaves what one
writing may leave; and from any point of the run on, a file that is there keeps its content up to
the end as long as no forced writing comes upon it. -/
theorem writings_keep_files (setting : Setting) (writings : List Writing) (m : Machine) :
    (∀ earlier writing, earlier ++ [writing] <+: writings →
      let before := Writing.after setting earlier m
      Leaves setting writing before.tree (Writing.after setting (earlier ++ [writing]) m).tree
        ((writing.run setting).run before).1)
    ∧ ∀ earlier later, earlier ++ later = writings → ∀ place content,
      (Writing.after setting earlier m).tree.content? place = some content →
      IsSpared setting later (Writing.after setting earlier m) place →
      (Writing.after setting writings m).tree.content? place = some content := by
  constructor
  · intro earlier writing _ before
    rw [after_append]
    exact leaves_run setting writing before
  · rintro earlier later rfl place content hplace hspared
    rw [after_append]
    exact content?_after hspared hplace

end Writing
end MockServer.Program
