/-
Following paths in trees that grow.

A path that leads somewhere leads there still in a tree that keeps the directories of the
first.  Main statements:

* `resolve_of_keeps`, `target_of_keeps` — paths and their targets stay what they are;
* `resolve_of_freePlace` — once a directory is made where a path found a free place, the path
  leads to it;
* `resolve_of_target` — a path without a slash at its end leads to where its target is;
* `target_join` — the target of a name under a path to a directory is that name in it.
-/
import Mathlib.Data.List.TakeWhile
import MockServer.FileTree.Operations
import MockServer.Proofs.Path

namespace MockServer.FileTree

/-- Work in two parts succeeds where both parts do. -/
theorem bind_eq_ok_iff {ε α β : Type} {first : Except ε α} {next : α → Except ε β} {b : β} :
    (first >>= next) = .ok b ↔ ∃ a, first = .ok a ∧ next a = .ok b := by
  cases first with
  | error e =>
    constructor
    · intro h
      cases h
    · rintro ⟨a, ha, -⟩
      cases ha
  | ok a =>
    constructor
    · exact fun h => ⟨a, rfl, h⟩
    · rintro ⟨_, ha, h⟩
      cases ha
      exact h

theorem toOption_eq_some_iff {ε α : Type} {result : Except ε α} {a : α} :
    result.toOption = some a ↔ result = .ok a := by
  cases result <;> simp [Except.toOption]

/-! ### Trees that keep directories -/

/-- A directory of one tree is a directory of the other. -/
def Keeps (before after : FileTree) : Prop :=
  ∀ place, before.at? place = some .directory → after.at? place = some .directory

/-- An entry set at a place that is no directory takes none away. -/
theorem keeps_set {tree : FileTree} {place : Place} (h : tree.at? place ≠ some .directory)
    (entry : Entry) : tree.Keeps (tree.set place entry) := by
  intro other hother
  have hne : other ≠ place := by
    rintro rfl
    exact h hother
  rw [at?_set_of_ne tree hne, hother]

variable {before after tree : FileTree} {directory here place : Place} {path : String}

/-! ### Steps -/

theorem requireDirectory_eq_ok_iff :
    tree.requireDirectory place = .ok () ↔ tree.at? place = some .directory := by
  rw [requireDirectory]
  rcases tree.at? place with _ | _ | _ <;> simp

/-- Where a piece leads from a directory. -/
def moved (here : Place) (piece : String) : Except FileFault Place :=
  if Path.isIdle piece then .ok here
  else if piece = ".." then .ok here.dropLast
  else if longestName < Text.byteCount piece then .error .nameTooLong
  else .ok (here ++ [piece])

/-- A step starts in a directory, and where it leads is the same in every tree. -/
theorem step_eq_ok_iff {piece : String} : tree.step here piece = .ok place ↔
    tree.at? here = some .directory ∧ moved here piece = .ok place := by
  have hstep : tree.step here piece = tree.requireDirectory here >>= fun _ => moved here piece := rfl
  rw [hstep, bind_eq_ok_iff, ← requireDirectory_eq_ok_iff]
  exact ⟨fun ⟨_, hrequire, h⟩ => ⟨hrequire, h⟩, fun ⟨hrequire, h⟩ => ⟨(), hrequire, h⟩⟩

theorem step_of_keeps (hkeeps : before.Keeps after) {piece : String}
    (h : before.step here piece = .ok place) : after.step here piece = .ok place := by
  rw [step_eq_ok_iff] at h ⊢
  exact ⟨hkeeps here h.1, h.2⟩

/-- A piece that means nothing leads nowhere. -/
theorem step_idle {piece : String} (hpiece : Path.isIdle piece = true)
    (hhere : tree.at? here = some .directory) : tree.step here piece = .ok here :=
  step_eq_ok_iff.2 ⟨hhere, if_pos hpiece⟩

theorem eq_of_step_idle {piece : String} (hpiece : Path.isIdle piece = true)
    (h : tree.step here piece = .ok place) : here = place := by
  have hmoved := (step_eq_ok_iff.1 h).2
  rw [moved, if_pos hpiece] at hmoved
  exact Except.ok.inj hmoved

theorem foldlM_step_of_keeps (hkeeps : before.Keeps after) {ps : List String}
    (h : ps.foldlM before.step here = .ok place) : ps.foldlM after.step here = .ok place := by
  induction ps generalizing here with
  | nil => exact h
  | cons piece rest ih =>
    rw [List.foldlM_cons, bind_eq_ok_iff] at h ⊢
    obtain ⟨next, hstep, hrest⟩ := h
    exact ⟨next, step_of_keeps hkeeps hstep, ih hrest⟩

theorem foldlM_step_empty {ps : List String} (hps : ∀ p ∈ ps, p = "")
    (hhere : tree.at? here = some .directory) : ps.foldlM tree.step here = .ok here := by
  induction ps with
  | nil => rfl
  | cons piece rest ih =>
    rw [List.foldlM_cons, bind_eq_ok_iff]
    refine ⟨here, ?_, ih fun p hp => hps p (List.mem_cons_of_mem piece hp)⟩
    rw [hps piece List.mem_cons_self]
    exact step_idle rfl hhere

/-! ### Paths -/

theorem ne_empty_of_checkPath (h : checkPath path = .ok ()) : path ≠ "" := by
  rintro rfl
  cases h

theorem resolve_eq_ok_iff : tree.resolve directory path = .ok place ↔
    checkPath path = .ok () ∧
      (Path.pieces path).foldlM tree.step (origin directory path) = .ok place := by
  rw [resolve, bind_eq_ok_iff]
  exact ⟨fun ⟨_, hcheck, h⟩ => ⟨hcheck, h⟩, fun ⟨hcheck, h⟩ => ⟨(), hcheck, h⟩⟩

/-- A path leads where it led. -/
theorem resolve_of_keeps (hkeeps : before.Keeps after)
    (h : before.resolve directory path = .ok place) : after.resolve directory path = .ok place := by
  rw [resolve_eq_ok_iff] at h ⊢
  exact ⟨h.1, foldlM_step_of_keeps hkeeps h.2⟩

theorem find_eq_ok_iff {entry : Entry} : tree.find directory path = .ok (place, entry) ↔
    tree.resolve directory path = .ok place ∧ tree.at? place = some entry := by
  rw [find, bind_eq_ok_iff]
  constructor
  · rintro ⟨found, hresolve, h⟩
    cases hat : tree.at? found with
    | none =>
      rw [hat] at h
      cases h
    | some there =>
      rw [hat] at h
      cases h
      exact ⟨hresolve, hat⟩
  · rintro ⟨hresolve, hat⟩
    refine ⟨place, hresolve, ?_⟩
    rw [hat]

theorem at?_eq_none_of_not_exists? (hresolve : tree.resolve directory path = .ok place)
    (hfree : tree.exists? directory path = false) : tree.at? place = none := by
  cases hat : tree.at? place with
  | none => rfl
  | some entry =>
    rw [exists?, find_eq_ok_iff.2 ⟨hresolve, hat⟩] at hfree
    cases hfree

theorem isDirectory_of_resolve (h : tree.resolve directory path = .ok place)
    (hplace : tree.at? place = some .directory) : tree.isDirectory directory path = true := by
  rw [isDirectory, find_eq_ok_iff.2 ⟨h, hplace⟩]

/-! ### Targets -/

/-- The pieces of a path but for empty ones at its end. -/
def namedPieces (path : String) : List String :=
  ((Path.pieces path).reverse.dropWhile (· == "")).reverse

theorem exists_pieces_eq_append (path : String) :
    ∃ rest, (∀ p ∈ rest, p = "") ∧ Path.pieces path = namedPieces path ++ rest := by
  refine ⟨((Path.pieces path).reverse.takeWhile (· == "")).reverse, ?_, ?_⟩
  · intro p hp
    exact eq_of_beq (List.mem_takeWhile_imp (p := (· == "")) (List.mem_reverse.1 hp))
  · rw [namedPieces, ← List.reverse_append, List.takeWhile_append_dropWhile, List.reverse_reverse]

/-- The target that the last of some pieces has in a directory. -/
def targetIn (here : Place) (ps : List String) (slash : Bool) : Except FileFault Target :=
  match ps.getLast? with
  | none => .ok ⟨here, none, slash⟩
  | some last =>
    if last = "." || last = ".." then .ok ⟨here, none, slash⟩
    else if longestName < Text.byteCount last then .error .nameTooLong
    else .ok ⟨here, some last, slash⟩

/-- A path has a target where all but its last piece leads to a directory. -/
theorem target_eq_ok_iff {target : Target} : tree.target directory path = .ok target ↔
    checkPath path = .ok () ∧ ∃ here,
      (namedPieces path).dropLast.foldlM tree.step (origin directory path) = .ok here ∧
      tree.at? here = some .directory ∧
      targetIn here (namedPieces path)
        ((namedPieces path).length < (Path.pieces path).length) = .ok target := by
  have htarget : tree.target directory path = checkPath path >>= fun _ =>
      (namedPieces path).dropLast.foldlM tree.step (origin directory path) >>= fun here =>
        tree.requireDirectory here >>= fun _ => targetIn here (namedPieces path)
          ((namedPieces path).length < (Path.pieces path).length) := rfl
  rw [htarget, bind_eq_ok_iff]
  constructor
  · rintro ⟨⟨⟩, hcheck, h⟩
    obtain ⟨here, hfold, h⟩ := bind_eq_ok_iff.1 h
    obtain ⟨⟨⟩, hrequire, h⟩ := bind_eq_ok_iff.1 h
    exact ⟨hcheck, here, hfold, requireDirectory_eq_ok_iff.1 hrequire, h⟩
  · rintro ⟨hcheck, here, hfold, hhere, h⟩
    exact ⟨(), hcheck, bind_eq_ok_iff.2 ⟨here, hfold, bind_eq_ok_iff.2
      ⟨(), requireDirectory_eq_ok_iff.2 hhere, h⟩⟩⟩

/-- The target of a path stays what it is. -/
theorem target_of_keeps (hkeeps : before.Keeps after) {target : Target}
    (h : before.target directory path = .ok target) :
    after.target directory path = .ok target := by
  rw [target_eq_ok_iff] at h ⊢
  obtain ⟨hcheck, here, hfold, hhere, h⟩ := h
  exact ⟨hcheck, here, foldlM_step_of_keeps hkeeps hfold, hkeeps here hhere, h⟩

theorem getLast?_namedPieces (path : String) : (namedPieces path).getLast? ≠ some "" := by
  rw [namedPieces, List.getLast?_reverse]
  intro h
  have hnot := List.head?_dropWhile_not (· == "") (Path.pieces path).reverse
  rw [h] at hnot
  cases hnot

/-- A target with a name is where its name leads from a directory. -/
theorem moved_of_targetIn {ps : List String} {slash : Bool} {target : Target} {name : String}
    (hlast : ps.getLast? ≠ some "") (h : targetIn here ps slash = .ok target)
    (hname : target.name = some name) :
    target.directory = here ∧ ps.getLast? = some name ∧ moved here name = .ok (here ++ [name]) := by
  rw [targetIn] at h
  cases hps : ps.getLast? with
  | none =>
    rw [hps] at h
    cases h
    cases hname
  | some last =>
    simp only [hps] at h
    split at h
    · cases h
      cases hname
    · rename_i hpoints
      split at h
      · cases h
      · rename_i hshort
        cases h
        cases hname
        simp only [Bool.or_eq_true, decide_eq_true_eq, not_or] at hpoints
        have hempty : name ≠ "" := by
          rintro rfl
          exact hlast hps
        refine ⟨rfl, rfl, ?_⟩
        rw [moved, if_neg (by simp [Path.isIdle, hempty, hpoints.1]), if_neg hpoints.2,
          if_neg hshort]

theorem slash_of_targetIn {here : Place} {ps : List String} {slash : Bool} {target : Target}
    (h : targetIn here ps slash = .ok target) : target.slash = slash := by
  rw [targetIn] at h
  split at h
  · cases h
    rfl
  · split at h
    · cases h
      rfl
    · split at h
      · cases h
      · cases h
        rfl

/-- A path without a slash at its end leads to where its target is. -/
theorem resolve_of_target {target : Target} {name : String}
    (htarget : tree.target directory path = .ok target) (hname : target.name = some name)
    (hslash : target.slash = false) :
    tree.resolve directory path = .ok (target.directory ++ [name]) := by
  obtain ⟨hcheck, here, hfold, hhere, htargetIn⟩ := target_eq_ok_iff.1 htarget
  obtain ⟨hdirectory, hlast, hmoved⟩ :=
    moved_of_targetIn (getLast?_namedPieces path) htargetIn hname
  obtain ⟨ps, hnamed⟩ := List.getLast?_eq_some_iff.1 hlast
  have hpieces : Path.pieces path = ps ++ [name] := by
    rw [slash_of_targetIn htargetIn, decide_eq_false_iff_not] at hslash
    obtain ⟨rest, -, hrest⟩ := exists_pieces_eq_append path
    rw [hrest, List.length_append] at hslash
    rw [hrest, List.eq_nil_of_length_eq_zero (show rest.length = 0 by omega), List.append_nil,
      hnamed]
  rw [hnamed, List.dropLast_concat] at hfold
  rw [resolve_eq_ok_iff, hpieces, List.foldlM_append, hdirectory]
  exact ⟨hcheck, bind_eq_ok_iff.2 ⟨here, hfold, bind_eq_ok_iff.2
    ⟨here ++ [name], step_eq_ok_iff.2 ⟨hhere, hmoved⟩, rfl⟩⟩⟩

/-! ### Free places -/

/-- A free place is a name in a directory to which all but the last piece of the path leads. -/
theorem freePlace_eq_ok (h : tree.freePlace directory path = .ok place) :
    ∃ target name, tree.target directory path = .ok target ∧ target.name = some name ∧
      place = target.directory ++ [name] ∧ tree.at? place = none := by
  obtain ⟨target, htarget, h⟩ := bind_eq_ok_iff.1 h
  cases hname : target.name with
  | none =>
    rw [hname] at h
    cases h
  | some name =>
    simp only [hname] at h
    cases hat : tree.at? (target.directory ++ [name]) with
    | some entry =>
      rw [hat] at h
      cases h
    | none =>
      rw [hat] at h
      cases h
      exact ⟨target, name, htarget, hname, rfl, hat⟩

theorem at?_of_freePlace (h : tree.freePlace directory path = .ok place) :
    tree.at? place = none := by
  obtain ⟨target, name, -, -, -, hat⟩ := freePlace_eq_ok h
  exact hat

theorem ne_nil_of_at?_eq_none (h : tree.at? place = none) : place ≠ [] := by
  rintro rfl
  cases h

/-- A directory made at a free place takes none away. -/
theorem keeps_set_of_freePlace (h : tree.freePlace directory path = .ok place) :
    tree.Keeps (tree.set place .directory) :=
  keeps_set (by rw [at?_of_freePlace h]; nofun) .directory

/-- A free place is in a directory. -/
theorem exists_parent_of_freePlace (h : tree.freePlace directory path = .ok place) :
    ∃ here name, place = here ++ [name] ∧ tree.at? here = some .directory := by
  obtain ⟨target, name, htarget, hname, rfl, -⟩ := freePlace_eq_ok h
  obtain ⟨-, here, -, hhere, htargetIn⟩ := target_eq_ok_iff.1 htarget
  obtain ⟨hdirectory, -⟩ := moved_of_targetIn (getLast?_namedPieces path) htargetIn hname
  rw [hdirectory]
  exact ⟨here, name, rfl, hhere⟩

/-- Once a directory is made where a path found a free place, the path leads to it. -/
theorem resolve_of_freePlace (h : tree.freePlace directory path = .ok place) :
    (tree.set place .directory).resolve directory path = .ok place := by
  have hkeeps := keeps_set_of_freePlace h
  have hset : (tree.set place .directory).at? place = some .directory :=
    at?_set_self (ne_nil_of_at?_eq_none (at?_of_freePlace h)) _
  obtain ⟨target, name, htarget, hname, hplace, -⟩ := freePlace_eq_ok h
  obtain ⟨hcheck, here, hfold, hhere, htargetIn⟩ := target_eq_ok_iff.1 htarget
  obtain ⟨hdirectory, hlast, hmoved⟩ :=
    moved_of_targetIn (getLast?_namedPieces path) htargetIn hname
  obtain ⟨rest, hrest, hpieces⟩ := exists_pieces_eq_append path
  obtain ⟨ps, hnamed⟩ := List.getLast?_eq_some_iff.1 hlast
  -- Empty pieces at the end of the path need the new directory to stand in.
  rw [hnamed, List.dropLast_concat] at hfold
  rw [resolve_eq_ok_iff, hpieces, hnamed, List.foldlM_append, List.foldlM_append]
  refine ⟨hcheck, bind_eq_ok_iff.2 ⟨place, bind_eq_ok_iff.2 ⟨here, ?_, ?_⟩, ?_⟩⟩
  · exact foldlM_step_of_keeps hkeeps hfold
  · rw [List.foldlM_cons, bind_eq_ok_iff]
    have hstep := step_eq_ok_iff.2 ⟨hkeeps here hhere, hmoved⟩
    rw [← hdirectory, ← hplace] at hstep
    exact ⟨place, hdirectory ▸ hstep, rfl⟩
  · exact foldlM_step_empty hrest hset

/-- The place at which a directory was made is free no more. -/
theorem freePlace_of_set (h : tree.freePlace directory path = .ok place) :
    (tree.set place .directory).freePlace directory path = .error .alreadyExists := by
  have hset : (tree.set place .directory).at? place = some .directory :=
    at?_set_self (ne_nil_of_at?_eq_none (at?_of_freePlace h)) _
  obtain ⟨target, name, htarget, hname, rfl, -⟩ := freePlace_eq_ok h
  rw [freePlace, target_of_keeps (keeps_set_of_freePlace h) htarget]
  simp only [bind, Except.bind, hname, hset]

/-! ### Names in a directory -/

theorem namedPieces_of_pieces {ps : List String} {name : String} (hname : name ≠ "")
    (h : Path.pieces path = ps ++ [name]) : namedPieces path = ps ++ [name] := by
  rw [namedPieces, h, List.reverse_append, List.reverse_singleton, List.singleton_append,
    List.dropWhile_cons, if_neg (by simpa using hname), List.reverse_cons, List.reverse_reverse]

/-- Where a name under a path leads has that name. -/
theorem getLast?_of_resolve_join {name : String} (hname : Path.IsName name)
    (h : tree.resolve directory (Path.join path name) = .ok place) : place.getLast? = some name := by
  obtain ⟨ps, hpieces⟩ := Path.exists_pieces_join path hname
  obtain ⟨-, hfold⟩ := resolve_eq_ok_iff.1 h
  rw [hpieces, List.foldlM_append, bind_eq_ok_iff] at hfold
  obtain ⟨here, -, hlast⟩ := hfold
  rw [List.foldlM_cons, bind_eq_ok_iff] at hlast
  obtain ⟨there, hstep, hthere⟩ := hlast
  cases hthere
  have hmoved := (step_eq_ok_iff.1 hstep).2
  rw [moved, if_neg (by rw [hname.not_idle]; exact Bool.false_ne_true), if_neg hname.ne_back] at hmoved
  split at hmoved
  · cases hmoved
  · cases hmoved
    exact List.getLast?_concat

/-- The target of a name under a path to a directory is that name in it. -/
theorem target_join {name : String} {target : Target} (hname : Path.IsName name)
    (hresolve : tree.resolve directory path = .ok place)
    (h : tree.target directory (Path.join path name) = .ok target) :
    target.directory = place ∧ target.name = some name := by
  obtain ⟨hcheck, hfold⟩ := resolve_eq_ok_iff.1 hresolve
  have hpath := ne_empty_of_checkPath hcheck
  obtain ⟨ps, hjoin, hpieces⟩ := Path.pieces_join hpath hname
  obtain ⟨-, here, hhere, -, htargetIn⟩ := target_eq_ok_iff.1 h
  rw [namedPieces_of_pieces hname.ne_empty hjoin] at hhere htargetIn
  rw [List.dropLast_concat, origin, Path.isAbsolute_join_name hpath hname] at hhere
  -- The base leads to where its pieces without an empty last one lead.
  have hdirectory : here = place := by
    rcases hpieces with hsame | hslash
    · rw [hsame, origin, hhere] at hfold
      exact Except.ok.inj hfold
    · rw [hslash, List.foldlM_append, bind_eq_ok_iff] at hfold
      obtain ⟨found, hfound, hempty⟩ := hfold
      rw [origin, hhere] at hfound
      cases hfound
      obtain ⟨next, hstep, hnext⟩ := bind_eq_ok_iff.1 hempty
      rw [eq_of_step_idle rfl hstep]
      exact Except.ok.inj hnext
  have hpoints : ¬ ((name = "." || name = "..") = true) := by
    have hidle := hname.not_idle
    simp only [Path.isIdle, Bool.or_eq_false_iff, beq_eq_false_iff_ne] at hidle
    simp [hidle.2, hname.ne_back]
  rw [hdirectory, targetIn, List.getLast?_concat] at htargetIn
  dsimp only at htargetIn
  rw [if_neg hpoints] at htargetIn
  split at htargetIn
  · cases htargetIn
  · cases htargetIn
    exact ⟨rfl, rfl⟩

end MockServer.FileTree
