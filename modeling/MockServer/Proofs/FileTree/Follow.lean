/-
Paths that lead to one place.

A path may be written in many ways: under another directory, with pieces that mean nothing, or in
its absolute form.  What matters to where it leads are its solid pieces, as long as each of them
stands in a directory.  Main statements:

* `enter_filter` — pieces that mean nothing may be left out on the way to a directory;
* `follow_join` — a relative path under a base is followed from where the base leads;
* `follow_whole` — a path and its absolute form lead to one place;
* `follow_join_parent` — a relative path under the directory of a file's path leads where it leads
  from the directory of the file.
-/
import MockServer.Proofs.FileTree.Resolve
import MockServer.Proofs.Path.Absolute

namespace MockServer.FileTree

open MockServer.Path (IsName solid whole anchor)

variable {tree after : FileTree} {directory here next file : Place} {path name : String}

/-! ### Ways into directories -/

/-- Where a path leads; nothing need stand there. -/
def follow (tree : FileTree) (directory : Place) (path : String) : Except FileFault Place :=
  (Path.pieces path).foldlM tree.step (origin directory path)

/-- The directory to which some pieces lead. -/
def enter (tree : FileTree) (here : Place) (ps : List String) : Except FileFault Place := do
  let there ← ps.foldlM tree.step here
  tree.requireDirectory there
  return there

theorem step_eq (tree : FileTree) (here : Place) (piece : String) :
    tree.step here piece = tree.requireDirectory here >>= fun _ => moved here piece :=
  rfl

theorem enter_cons (tree : FileTree) (here : Place) (piece : String) (ps : List String) :
    tree.enter here (piece :: ps) = tree.step here piece >>= fun next => tree.enter next ps := by
  rw [enter, List.foldlM_cons, bind_assoc]
  rfl

/-- A way that starts with a step needs a directory to start in. -/
theorem requireDirectory_bind_foldlM {ps : List String} (hps : ps ≠ []) :
    (tree.requireDirectory here >>= fun _ => ps.foldlM tree.step here) =
      ps.foldlM tree.step here := by
  cases ps with
  | nil => exact absurd rfl hps
  | cons piece rest =>
    rw [List.foldlM_cons, step_eq]
    cases tree.requireDirectory here <;> rfl

theorem requireDirectory_bind_enter (tree : FileTree) (here : Place) (ps : List String) :
    (tree.requireDirectory here >>= fun _ => tree.enter here ps) = tree.enter here ps := by
  cases ps with
  | nil =>
    show (tree.requireDirectory here >>= fun _ => tree.requireDirectory here >>= fun _ =>
      pure here) = tree.requireDirectory here >>= fun _ => pure here
    cases tree.requireDirectory here <;> rfl
  | cons piece rest =>
    rw [enter_cons, step_eq]
    cases tree.requireDirectory here <;> rfl

/-- Pieces that mean nothing may be left out on the way to a directory. -/
theorem enter_filter (tree : FileTree) (here : Place) (ps : List String) :
    tree.enter here (ps.filter (!Path.isIdle ·)) = tree.enter here ps := by
  induction ps generalizing here with
  | nil => rfl
  | cons piece rest ih =>
    by_cases hpiece : Path.isIdle piece = true
    · -- The step needs a directory to stand in, and so does the rest of the way.
      have hstep : tree.step here piece =
          tree.requireDirectory here >>= fun _ => Except.ok here := by
        rw [step_eq, moved, if_pos hpiece]
      rw [List.filter_cons_of_neg (by simp [hpiece]), ih, enter_cons, hstep, bind_assoc]
      exact (requireDirectory_bind_enter tree here rest).symm
    · rw [List.filter_cons_of_pos (by simp [hpiece]), enter_cons, enter_cons]
      simp only [ih]

theorem enter_append (tree : FileTree) (here : Place) (ps qs : List String) :
    tree.enter here (ps ++ qs) =
      ps.foldlM tree.step here >>= fun there => tree.enter there qs := by
  rw [enter, List.foldlM_append, bind_assoc]
  rfl

/-- Pieces that are not the last may be left out where they mean nothing. -/
theorem foldlM_append_eq_enter (tree : FileTree) (here : Place) (ps : List String)
    {qs : List String} (hqs : qs ≠ []) : (ps ++ qs).foldlM tree.step here =
      tree.enter here (ps.filter (!Path.isIdle ·)) >>= fun there => qs.foldlM tree.step there := by
  rw [enter_filter, enter, List.foldlM_append, bind_assoc]
  congr 1
  funext there
  rw [bind_assoc]
  exact (requireDirectory_bind_foldlM hqs).symm

theorem enter_eq_ok {ps : List String} (hfold : ps.foldlM tree.step here = .ok next)
    (hnext : tree.at? next = some .directory) : tree.enter here ps = .ok next := by
  refine bind_eq_ok_iff.2 ⟨next, hfold, bind_eq_ok_iff.2 ⟨(), ?_, rfl⟩⟩
  exact requireDirectory_eq_ok_iff.2 hnext

theorem follow_of_relative (h : Path.isAbsolute path = false) :
    tree.follow here path = (Path.pieces path).foldlM tree.step here := by
  rw [follow, origin, h, if_neg Bool.false_ne_true]

/-- A relative path under a base is followed from where the base leads. -/
theorem follow_join (tree : FileTree) (directory : Place) (base : String)
    (hpath : Path.isAbsolute path = false) : tree.follow directory (Path.join base path) =
      tree.enter (origin directory base) (solid base) >>= fun there => tree.follow there path := by
  simp only [follow_of_relative hpath]
  by_cases hbase : base = ""
  · rw [hbase, Path.join_empty_base hpath, follow_of_relative hpath]
    exact foldlM_append_eq_enter tree directory [] (Path.pieces_ne_nil path)
  · have horigin : origin directory (Path.join base path) = origin directory base := by
      rw [origin, origin, Path.isAbsolute_congr (Path.leading_join base hpath)]
    obtain ⟨ps, hjoin, hpieces⟩ := Path.pieces_join_of_relative hbase hpath
    have hsolid : solid base = ps.filter (!Path.isIdle ·) := by
      rcases hpieces with hpieces | hpieces
      · rw [solid, hpieces]
      · rw [solid, hpieces, List.filter_append]
        exact List.append_nil _
    rw [follow, hjoin, horigin, foldlM_append_eq_enter tree _ ps (Path.pieces_ne_nil path), hsolid]

/-! ### Places that are reached -/

/-- A place to which its own names lead from the root. -/
structure IsReached (tree : FileTree) (place : Place) : Prop where
  names : ∀ n ∈ place, IsName n
  leads : place.foldlM tree.step [] = .ok place

theorem isReached_root (tree : FileTree) : tree.IsReached [] :=
  ⟨List.forall_mem_nil _, rfl⟩

theorem moved_name (hname : IsName name) (h : moved here name = .ok next) :
    next = here ++ [name] := by
  rw [moved, if_neg (by rw [hname.not_idle]; exact Bool.false_ne_true), if_neg hname.ne_back] at h
  split at h
  · cases h
  · exact (Except.ok.inj h).symm

/-- What is reached stands in a directory that is reached. -/
theorem IsReached.above (h : tree.IsReached (here ++ [name])) :
    tree.IsReached here ∧ tree.at? here = some .directory := by
  obtain ⟨hhere, hname⟩ := List.forall_mem_append.1 h.names
  have hleads := h.leads
  rw [List.foldlM_append, bind_eq_ok_iff] at hleads
  obtain ⟨there, hthere, hlast⟩ := hleads
  rw [List.foldlM_cons, bind_eq_ok_iff] at hlast
  obtain ⟨end', hstep, hend⟩ := hlast
  cases hend
  obtain ⟨hdirectory, hmoved⟩ := step_eq_ok_iff.1 hstep
  obtain rfl : here = there :=
    (List.append_inj' (moved_name (List.forall_mem_singleton.1 hname) hmoved) rfl).1
  exact ⟨⟨hhere, hthere⟩, hdirectory⟩

/-- The way back from a place that is reached leads to a directory that is reached. -/
theorem IsReached.dropLast (h : tree.IsReached here) :
    tree.IsReached here.dropLast ∧ tree.at? here.dropLast = some .directory := by
  rcases List.eq_nil_or_concat here with rfl | ⟨init, last, rfl⟩
  · exact ⟨isReached_root tree, rfl⟩
  · rw [List.concat_eq_append] at h ⊢
    rw [List.dropLast_concat]
    exact h.above

/-- A step from a place that is reached goes to one that is reached: a directory, or a new name. -/
theorem IsReached.step {piece : String} (h : tree.IsReached here) (hpiece : '/' ∉ piece.toList)
    (hstep : tree.step here piece = .ok next) : tree.IsReached next ∧
      (tree.at? next = some .directory ∨ IsName piece ∧ next = here ++ [piece]) := by
  obtain ⟨hhere, hmoved⟩ := step_eq_ok_iff.1 hstep
  have hfrom := hmoved
  rw [moved] at hmoved
  split at hmoved
  · cases hmoved
    exact ⟨h, .inl hhere⟩
  · rename_i hidle
    split at hmoved
    · cases hmoved
      exact ⟨h.dropLast.1, .inl h.dropLast.2⟩
    · rename_i hback
      have hname : IsName piece := ⟨hpiece, Bool.eq_false_iff.2 hidle, hback⟩
      obtain rfl := moved_name hname hfrom
      refine ⟨⟨List.forall_mem_append.2 ⟨h.names, List.forall_mem_singleton.2 hname⟩, ?_⟩,
        .inr ⟨hname, rfl⟩⟩
      rw [List.foldlM_append, h.leads]
      show [piece].foldlM tree.step here = Except.ok (here ++ [piece])
      rw [List.foldlM_cons, hstep]
      rfl

theorem IsReached.foldlM {ps : List String} (h : tree.IsReached here)
    (hps : ∀ p ∈ ps, '/' ∉ p.toList) (hfold : ps.foldlM tree.step here = .ok next) :
    tree.IsReached next := by
  induction ps generalizing here with
  | nil =>
    cases hfold
    exact h
  | cons piece rest ih =>
    obtain ⟨hpiece, hrest⟩ := List.forall_mem_cons.1 hps
    rw [List.foldlM_cons, bind_eq_ok_iff] at hfold
    obtain ⟨there, hstep, hfold⟩ := hfold
    exact ih (h.step hpiece hstep).1 hrest hfold

theorem IsReached.origin (h : tree.IsReached directory) (path : String) :
    tree.IsReached (origin directory path) := by
  rw [FileTree.origin]
  split
  · exact isReached_root tree
  · exact h

/-! ### Paths to files -/

/-- The last piece of a path to something other than a directory is its name, and the pieces before
lead to the directory in which it stands. -/
theorem exists_name_of_follow (h : tree.IsReached directory)
    (hfollow : tree.follow directory path = .ok file) (hfile : tree.at? file ≠ some .directory) :
    ∃ before name here, Path.pieces path = before ++ [name] ∧ IsName name ∧ file = here ++ [name] ∧
      before.foldlM tree.step (origin directory path) = .ok here ∧
      tree.at? here = some .directory := by
  obtain ⟨before, name, hpieces⟩ : ∃ before name, Path.pieces path = before ++ [name] :=
    ⟨_, _, (List.dropLast_concat_getLast (Path.pieces_ne_nil path)).symm⟩
  have hslash : ∀ p ∈ before ++ [name], '/' ∉ p.toList := by
    rw [← hpieces]
    exact fun p => Path.slash_not_mem_of_mem_pieces
  obtain ⟨hbefore, hlast⟩ := List.forall_mem_append.1 hslash
  rw [follow, hpieces, List.foldlM_append, bind_eq_ok_iff] at hfollow
  obtain ⟨here, hhere, hfold⟩ := hfollow
  rw [List.foldlM_cons, bind_eq_ok_iff] at hfold
  obtain ⟨there, hstep, hthere⟩ := hfold
  cases hthere
  obtain ⟨-, hdirectory | ⟨hname, rfl⟩⟩ := ((h.origin path).foldlM hbefore hhere).step
    (hlast name List.mem_cons_self) hstep
  · exact absurd hdirectory hfile
  · exact ⟨before, name, here, hpieces, hname, rfl, hhere, (step_eq_ok_iff.1 hstep).1⟩

/-- **A relative path under the directory of a file's path leads where it leads from the directory
of the file**, as long as the directories are there. -/
theorem follow_join_parent (h : tree.IsReached directory)
    (hfollow : tree.follow directory path = .ok file) (hfile : tree.at? file ≠ some .directory) :
    ∃ base, Path.parent? path = some base ∧
      ∀ after, tree.Keeps after → ∀ written, Path.isAbsolute written = false →
        after.follow directory (Path.join base written) = after.follow file.dropLast written := by
  obtain ⟨before, name, here, hpieces, hname, rfl, hhere, hat⟩ :=
    exists_name_of_follow h hfollow hfile
  obtain ⟨base, hparent, hsolid, hleading⟩ := Path.exists_parent hpieces hname.not_idle
  have hbefore : solid base = before.filter (!Path.isIdle ·) := by
    rw [hsolid, Path.solid_of_pieces hpieces hname.not_idle, List.dropLast_concat]
  have horigin : origin directory base = origin directory path := by
    rw [origin, origin]
    rcases hleading with ⟨hleading, -⟩ | ⟨rfl, habsolute⟩
    · rw [Path.isAbsolute_congr hleading]
    · rw [habsolute]
      rfl
  refine ⟨base, hparent, fun after hkeeps written hwritten => ?_⟩
  have henter : after.enter (origin directory base) (solid base) = .ok here := by
    rw [hbefore, enter_filter, horigin]
    exact enter_eq_ok (foldlM_step_of_keeps hkeeps hhere) (hkeeps here hat)
  rw [follow_join after directory base hwritten, henter, List.dropLast_concat]
  rfl

/-! ### Absolute forms -/

/-- The path of a place from the root. -/
def pathOf (place : Place) : String :=
  "/" ++ "/".intercalate place

theorem IsReached.isPlain_pathOf (h : tree.IsReached directory) :
    Path.IsPlain (pathOf directory) :=
  Path.isPlain_root fun n hn => (h.names n hn).isSolid

theorem IsReached.solid_pathOf (h : tree.IsReached directory) :
    solid (pathOf directory) = directory := by
  have hsolid := fun n hn => (h.names n hn).isSolid
  rw [pathOf, ← Path.foldl_join_root hsolid, Path.solid_foldl_join "/" hsolid]
  rfl

/-- What follows an anchor starts where the path starts. -/
theorem enter_anchor (h : tree.IsReached directory) (path : String) (ps : List String) :
    tree.enter [] (solid (anchor (pathOf directory) path) ++ ps) =
      tree.enter (origin directory path) ps := by
  by_cases hpath : Path.isAbsolute path = true
  · rw [origin, if_pos hpath]
    rcases Path.anchor_of_isAbsolute (pathOf directory) hpath with hanchor | hanchor
    · rw [hanchor]
      rfl
    · rw [hanchor]
      rfl
  · rw [origin, if_neg hpath, Path.anchor_of_relative (Bool.eq_false_iff.2 hpath), h.solid_pathOf,
      enter_append, h.leads]
    rfl

/-- A path with a name at its end and its absolute form lead to one place. -/
theorem follow_whole {before : List String} (h : tree.IsReached directory)
    (hpieces : Path.pieces path = before ++ [name]) (hname : IsName name) :
    tree.follow directory (whole (pathOf directory) path) = tree.follow directory path := by
  obtain ⟨before', hpieces'⟩ := Path.exists_pieces_whole (pathOf directory) hpieces hname
  have hsolid : solid (whole (pathOf directory) path) =
      solid (anchor (pathOf directory) path) ++ solid path :=
    Path.solid_foldl_join _ fun n => Path.isSolid_of_mem_solid
  rw [Path.solid_of_pieces hpieces hname.not_idle, Path.solid_of_pieces hpieces' hname.not_idle,
    ← List.append_assoc] at hsolid
  have hbefore := (List.append_inj' hsolid rfl).1
  -- The absolute form starts at the root, and goes through the anchor first.
  have horigin : origin directory (whole (pathOf directory) path) = [] := by
    rw [origin, if_pos (Path.isAbsolute_whole h.isPlain_pathOf.isAbsolute path)]
  rw [follow, follow, hpieces', hpieces,
    foldlM_append_eq_enter tree _ before' (List.cons_ne_nil _ _),
    foldlM_append_eq_enter tree _ before (List.cons_ne_nil _ _), horigin, hbefore, enter_anchor h]

end MockServer.FileTree
