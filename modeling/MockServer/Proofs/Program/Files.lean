/-
The files of a program.

`filesOn` says what the writing of a program comes to on a tree of files and what it
leaves there, also where it fails half-way: the directory is made first, then the main
file is written, and the module file last.  Main statement: `comes_write` — that is what
the task does.
-/
import MockServer.Program.Write
import MockServer.Proofs.Machine.Task
import MockServer.Proofs.Path

namespace MockServer.Program

open MockServer.Task

theorem isName_mainName : Path.IsName mainName :=
  ⟨by decide, by decide, by decide⟩

theorem isName_moduleName : Path.IsName moduleName :=
  ⟨by decide, by decide, by decide⟩

/-- The tree with a text in a file; a file that is there already is replaced only by force. -/
def textOn (directory : Place) (path text : String) (force : Bool) (tree : FileTree) :
    Except FileWriteFault FileTree :=
  if tree.exists? directory path && !force then .error (.taken path)
  else (tree.write directory path (Text.encode text)).mapError .failed

/-- A text is written where it may be and can be. -/
theorem textOn_eq_ok_iff {directory : Place} {path text : String} {force : Bool}
    {tree tree' : FileTree} : textOn directory path text force tree = .ok tree' ↔
      (tree.exists? directory path && !force) = false ∧
        tree.write directory path (Text.encode text) = .ok tree' := by
  rw [textOn]
  split
  · rename_i htaken
    rw [htaken]
    exact ⟨nofun, fun h => by cases h.1⟩
  · rename_i hfree
    rw [Bool.eq_false_iff.2 hfree]
    cases tree.write directory path (Text.encode text) with
    | error fault => exact ⟨nofun, fun h => by cases h.2⟩
    | ok changed =>
      constructor
      · intro h
        cases h
        exact ⟨rfl, rfl⟩
      · rintro ⟨-, h⟩
        cases h
        rfl

/-- What the writing of a program comes to, and what it leaves. -/
def filesOn (directory : Place) (program : Program) (path : String) (force : Bool)
    (tree : FileTree) : Except WriteFault Unit × FileTree :=
  match tree.makeDirectories directory path with
  | (made, .error fault) => (.error (.noDirectory path fault), made)
  | (made, .ok ()) =>
    match textOn directory (Path.join path mainName) program.mainFile force made with
    | .error fault => (.error (.noFile (Path.join path mainName) fault), made)
    | .ok half =>
      match textOn directory (Path.join path moduleName) program.moduleFile force half with
      | .error fault => (.error (.noFile (Path.join path moduleName) fault), half)
      | .ok whole => (.ok (), whole)

variable {quiet : Log.Event → Prop} {setting : Setting}

theorem comes_writeText_ok {path text : String} {force : Bool} {tree tree' : FileTree}
    (hquiet : quiet (written path text))
    (h : textOn setting.directory path text force tree = .ok tree') :
    Comes quiet (writeText setting path text force) tree (.ok ()) tree' [] := by
  obtain ⟨hfree, hwrite⟩ := textOn_eq_ok_iff.1 h
  refine comes_tree_bind ?_
  rw [if_neg (by rw [hfree]; exact Bool.false_ne_true)]
  exact comes_bind (comes_changeWhole_ok _ hwrite) (comes_tell tree' hquiet)

theorem comes_writeText_error {path text : String} {force : Bool} {tree : FileTree}
    {fault : FileWriteFault} (h : textOn setting.directory path text force tree = .error fault) :
    Comes quiet (writeText setting path text force) tree (.error fault) tree [] := by
  refine comes_tree_bind ?_
  rw [textOn] at h
  split at h
  · rename_i htaken
    rw [if_pos htaken]
    cases h
    exact comes_throw tree _
  · rename_i hfree
    rw [if_neg hfree]
    cases hw : tree.write setting.directory path (Text.encode text) with
    | error f =>
      rw [hw] at h
      cases h
      exact comes_bind_error (comes_changeWhole_error _ hw)
    | ok changed =>
      rw [hw] at h
      cases h

/-- What the writing of a program comes to. -/
theorem comes_write (program : Program) (path : String) (force : Bool) (tree : FileTree)
    (hquiet : ∀ path text, quiet (written path text)) :
    Comes quiet (program.write setting path force) tree
      ((filesOn setting.directory program path force tree).1.map fun _ =>
        [Path.join path mainName, Path.join path moduleName])
      (filesOn setting.directory program path force tree).2 [] := by
  have hchange : Comes quiet
      (change (·.makeDirectories setting.directory path) (WriteFault.noDirectory path)) tree _ _ [] :=
    comes_change _ _ tree
  rw [filesOn]
  rcases hmade : tree.makeDirectories setting.directory path with ⟨made, fault | _⟩
  · rw [hmade] at hchange
    exact comes_bind_error hchange
  · rw [hmade] at hchange
    refine comes_bind hchange ?_
    dsimp only
    cases hmain : textOn setting.directory (Path.join path mainName) program.mainFile force made with
    | error fault => exact comes_bind_error (comes_adapt _ (comes_writeText_error hmain))
    | ok half =>
      refine comes_bind (comes_adapt _ (comes_writeText_ok (hquiet _ _) hmain)) ?_
      dsimp only
      cases hmodule : textOn setting.directory (Path.join path moduleName) program.moduleFile
          force half with
      | error fault => exact comes_bind_error (comes_adapt _ (comes_writeText_error hmodule))
      | ok whole =>
        exact comes_bind (comes_adapt _ (comes_writeText_ok (hquiet _ _) hmodule))
          (comes_pure whole _)

end MockServer.Program
