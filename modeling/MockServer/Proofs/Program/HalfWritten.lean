/-
What is left where a program could not be written.

The two files of a program are written one after the other, each under its own guard, and
nothing is taken back.  A fault of the directory or of the main file leaves all files as they
were; a fault of the module file leaves the main file written.  Main statements:

* `textOn_eq_ok` — a text that was written stands at the end of its path, and nothing stood
  there before unless it was written by force;
* `write_error_files` — what a fault leaves of every file;
* `write_not_all_or_nothing` — a program may be written by half.
-/
import MockServer.Proofs.FileTree.Frame
import MockServer.Proofs.Program.Files

namespace MockServer.Program

open MockServer.Task FileTree

variable {setting : Setting} {directory : Place} {program : Program} {path : String}
  {force : Bool} {tree tree' : FileTree}

/-! ### One file -/

/-- A text that was put in a file at the end of a path, where no directory stood, and nothing at
all unless it was put there by force. -/
structure Put (directory : Place) (path text : String) (force : Bool) (before after : FileTree)
    (home : Place) : Prop where
  resolve_eq : before.resolve directory path = .ok home
  ne_directory : before.at? home ≠ some .directory
  free : force = false → before.at? home = none
  exists_set_eq : ∃ executable, after = before.set home (.file (Text.encode text) executable)

theorem exists_put_of_textOn {text : String}
    (h : textOn directory path text force tree = .ok tree') :
    ∃ home, Put directory path text force tree tree' home := by
  obtain ⟨hfree, hwrite⟩ := textOn_eq_ok_iff.1 h
  obtain ⟨home, executable, hresolve, hplace, rfl⟩ := exists_resolve_of_write hwrite
  refine ⟨home, hresolve, hplace, fun hforce => at?_eq_none_of_not_exists? hresolve ?_,
    executable, rfl⟩
  rwa [hforce, Bool.not_false, Bool.and_true] at hfree

namespace Put

variable {text : String} {before after : FileTree} {home place : Place}

theorem keeps (h : Put directory path text force before after home) : before.Keeps after := by
  obtain ⟨executable, rfl⟩ := h.exists_set_eq
  exact keeps_set h.ne_directory _

/-- The path leads to the file. -/
theorem resolve_after (h : Put directory path text force before after home) :
    after.resolve directory path = .ok home :=
  resolve_of_keeps h.keeps h.resolve_eq

theorem content?_self (h : Put directory path text force before after home) :
    after.content? home = some (Text.encode text) := by
  obtain ⟨executable, rfl⟩ := h.exists_set_eq
  refine content?_set_self ?_ _ executable
  rintro rfl
  exact h.ne_directory rfl

theorem at?_of_ne (h : Put directory path text force before after home) (hne : place ≠ home) :
    after.at? place = before.at? place := by
  obtain ⟨executable, rfl⟩ := h.exists_set_eq
  exact at?_set_of_ne before hne _

theorem content?_of_ne (h : Put directory path text force before after home)
    (hne : place ≠ home) : after.content? place = before.content? place := by
  rw [content?, content?, h.at?_of_ne hne]

/-- But by force no file that was there is changed. -/
theorem content?_kept (h : Put directory path text force before after home)
    (hforce : force = false) {content : List UInt8} (hplace : before.content? place = some content) :
    after.content? place = some content := by
  rw [h.content?_of_ne, hplace]
  rintro rfl
  rw [content?, h.free hforce] at hplace
  cases hplace

end Put

/-- A text that was written stands at the end of its path, and nothing stood there before
unless it was written by force. -/
theorem textOn_eq_ok {text : String} (h : textOn directory path text force tree = .ok tree') :
    ∃ home, tree'.resolve directory path = .ok home
      ∧ tree'.content? home = some (Text.encode text)
      ∧ (∀ place, place ≠ home → tree'.content? place = tree.content? place)
      ∧ (force = false → tree.at? home = none) := by
  obtain ⟨home, hput⟩ := exists_put_of_textOn h
  exact ⟨home, hput.resolve_after, hput.content?_self, fun _ => hput.content?_of_ne, hput.free⟩

/-! ### Both files -/

/-- What the writing of a program left where it failed: all files as they were, or the main
file written and nothing else. -/
theorem filesOn_error {fault : WriteFault}
    (h : (filesOn directory program path force tree).1 = .error fault) :
    ((∀ reason, fault ≠ .noFile (Path.join path moduleName) reason) ∧
      SameFiles tree (filesOn directory program path force tree).2) ∨
    ∃ made reason, fault = .noFile (Path.join path moduleName) reason ∧
      DirectoriesMade directory path tree made ∧
      textOn directory (Path.join path mainName) program.mainFile force made =
        .ok (filesOn directory program path force tree).2 := by
  have hpaths : Path.join path mainName ≠ Path.join path moduleName := fun heq =>
    absurd ((Path.join_name_inj isName_mainName isName_moduleName).1 heq) (by decide)
  have hmade := directoriesMade_makeDirectories tree directory path
  rw [filesOn] at h ⊢
  rcases hmake : tree.makeDirectories directory path with ⟨made, fault' | _⟩
  · simp only [hmake] at h hmade ⊢
    cases h
    refine .inl ⟨fun reason heq => ?_, hmade.sameFiles⟩
    cases heq
  · simp only [hmake] at h hmade ⊢
    cases hmain : textOn directory (Path.join path mainName) program.mainFile force made with
    | error reason =>
      simp only [hmain] at h ⊢
      cases h
      refine .inl ⟨fun reason' heq => ?_, hmade.sameFiles⟩
      injection heq with heq
      exact hpaths heq
    | ok half =>
      simp only [hmain] at h ⊢
      cases hmodule : textOn directory (Path.join path moduleName) program.moduleFile force half with
      | error reason =>
        simp only [hmodule] at h ⊢
        cases h
        exact .inr ⟨made, reason, rfl, hmade, hmain⟩
      | ok whole =>
        simp only [hmodule] at h
        cases h

/-- **What a program that was not written leaves.**  Where the fault is not about the module
file, all files are as they were.  Where it is, the main file stands at its path and all other
files are as they were; and but by force, nothing stood where the main file stands now. -/
theorem write_error_files {m m' : Machine} {fault : WriteFault}
    (h : (program.write setting path force).run.run m = (.error fault, m')) :
    ((∀ reason, fault ≠ .noFile (Path.join path moduleName) reason) →
        ∀ place, m'.tree.content? place = m.tree.content? place)
    ∧ ∀ reason, fault = .noFile (Path.join path moduleName) reason →
        ∃ home, m'.tree.resolve setting.directory (Path.join path mainName) = .ok home
          ∧ m'.tree.content? home = some (Text.encode program.mainFile)
          ∧ (∀ place, place ≠ home → m'.tree.content? place = m.tree.content? place)
          ∧ (force = false → m.tree.at? home = none) := by
  have hcomes : Comes (fun _ => True) (program.write setting path force) m.tree _ _ [] :=
    comes_write program path force m.tree fun _ _ => trivial
  obtain ⟨events, -, hrun⟩ := hcomes.exists_run_eq m rfl
  rw [h] at hrun
  obtain ⟨hfault, hmachine⟩ := Prod.mk.inj hrun
  have hresult : (filesOn setting.directory program path force m.tree).1 = .error fault := by
    cases hfiles : (filesOn setting.directory program path force m.tree).1 with
    | error fault' =>
      rw [hfiles] at hfault
      cases hfault
      rfl
    | ok _ =>
      rw [hfiles] at hfault
      cases hfault
  have htree : m'.tree = (filesOn setting.directory program path force m.tree).2 :=
    congrArg Machine.tree hmachine
  rw [htree]
  obtain ⟨hother, hsame⟩ | ⟨made, reason, rfl, hmade, hmain⟩ := filesOn_error hresult
  · exact ⟨fun _ => hsame, fun reason heq => absurd heq (hother reason)⟩
  · refine ⟨fun hother => absurd rfl (hother reason), fun _ _ => ?_⟩
    obtain ⟨home, hresolve, hcontent, hothers, hfree⟩ := textOn_eq_ok hmain
    refine ⟨home, hresolve, hcontent, fun place hne => ?_, fun hforce => ?_⟩
    · rw [hothers place hne]
      exact hmade.sameFiles place
    · -- Only directories were made before, and none of them where the file stands now.
      obtain hsame | ⟨hnone, -⟩ := hmade home
      · rw [← hsame, hfree hforce]
      · exact hnone

/-! ### A module file that is in the way -/

/-- The working directory is the root. -/
def rootSetting : Setting :=
  ⟨[], [], none, fun _ => ""⟩

/-- A directory that holds a module file and nothing else. -/
def takenTree : FileTree :=
  ⟨[(["o"], .directory), (["o", "go.mod"], .file [0x6d] false)]⟩

/-- The same directory with a main file beside it. -/
def halfTree : FileTree :=
  takenTree.set ["o", "main.go"] (.file [0x61] false)

theorem run_write_taken :
    ((Program.mk "a" "b").write rootSetting "o" false).run.run (.of takenTree) =
      (.error (.noFile "o/go.mod" (.taken "o/go.mod")),
        { Machine.of halfTree with log := [written "o/main.go" "a"] }) := by
  rfl

/-- The main file is written, and the module file that was there stays. -/
theorem write_error_files_taken :
    ∃ home, halfTree.resolve [] "o/main.go" = .ok home
      ∧ halfTree.content? home = some (Text.encode "a")
      ∧ (∀ place, place ≠ home → halfTree.content? place = takenTree.content? place)
      ∧ takenTree.at? home = none := by
  obtain ⟨home, hresolve, hcontent, hothers, hfree⟩ :=
    (write_error_files run_write_taken).2 (.taken "o/go.mod") rfl
  exact ⟨home, hresolve, hcontent, hothers, hfree rfl⟩

/-- **Writing is not all or nothing.**  A program that was not written may have left one file
more than there was. -/
theorem write_not_all_or_nothing :
    ¬ ∀ (setting : Setting) (program : Program) (path : String) (force : Bool) (m m' : Machine)
      (fault : WriteFault),
      (program.write setting path force).run.run m = (.error fault, m') →
        ∀ place, m'.tree.content? place = m.tree.content? place := by
  intro h
  have hmain := h _ _ _ _ _ _ _ run_write_taken ["o", "main.go"]
  cases hmain

end MockServer.Program
