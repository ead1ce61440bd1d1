/-
Configuration files and the paths that name them.

A configuration file says where directories lie, and a relative one of them lies under the
directory of the file.  The file may be named by any path that leads to it.  Main statements:

* `exists_findLayer` — a file gives its layer, in which each directory lies where the file means
  it;
* `whole_resolve` — the absolute forms of the directories in a configuration hang on those in its
  layer;
* `findLayer_absolute` — a file that is named by a path and by the absolute form of that path means
  the same.
-/
import MockServer.Config.Basic
import MockServer.Proofs.Build.Isolation
import MockServer.Proofs.FileTree.Follow
import MockServer.Proofs.Text.Utf8

namespace MockServer.Config

open Build (Toolchain)
open FileTree (checkPath)

variable {tree : FileTree} {directory home file : Place} {path base text : String}
  {content : List UInt8} {executable : Bool} {written layer : Layer}

/-! ### Layers of files -/

theorem readText_of_find (hfind : tree.find directory path = .ok (file, .file content executable))
    (htext : Text.decode? content = some text) : tree.readText directory path = .ok text := by
  have hbytes : tree.readBytes directory path = .ok content := by
    rw [FileTree.readBytes, hfind]
    rfl
  exact FileTree.bind_eq_ok_iff.2 ⟨content, hbytes, by rw [htext]⟩

/-- The layer of a file, with its relative directories under that of the path. -/
theorem layerAt_of_find (hfind : tree.find directory path = .ok (file, .file content executable))
    (htext : Text.decode? content = some text) (hread : Layer.read text = .ok written)
    (hparent : Path.parent? path = some base) :
    layerAt tree directory path = .ok (some (written.under base)) := by
  have hexists : tree.exists? directory path = true := by
    rw [FileTree.exists?, hfind]
  rw [layerAt, hexists, Bool.not_true, if_neg Bool.false_ne_true]
  refine FileTree.bind_eq_ok_iff.2 ⟨text, ?_, FileTree.bind_eq_ok_iff.2 ⟨written, ?_, ?_⟩⟩
  · rw [readText_of_find hfind htext]
    rfl
  · rw [hread]
    rfl
  · rw [hparent]

theorem findLayer_of_layerAt {named : Option String}
    (h : layerAt tree directory (named.getD defaultFile) = .ok (some layer)) :
    findLayer tree directory named = .ok layer := by
  cases named with
  | none =>
    rw [findLayer, show layerAt tree directory defaultFile = _ from h]
    rfl
  | some path =>
    rw [findLayer, show layerAt tree directory path = _ from h]
    rfl

/-! ### Where directories lie -/

/-- What a directory that a file writes denotes as a path from the working directory: an absolute
one itself, and a relative one the place to which it leads from the directory of the file, as long
as the directories are there. -/
inductive Denotes (tree : FileTree) (directory home : Place) :
    Option String → Option String → Prop where
  | unset : Denotes tree directory home none none
  | verbatim {path : String} (absolute : Path.isAbsolute path = true) :
      Denotes tree directory home (some path) (some path)
  | placed {written path : String} (relative : Path.isAbsolute written = false)
      (leads : ∀ after, tree.Keeps after →
        after.follow directory path = after.follow home written) :
      Denotes tree directory home (some written) (some path)

/-- A layer with the directories that a file writes, each where the file means it. -/
structure IsPlaced (tree : FileTree) (directory home : Place) (written layer : Layer) : Prop where
  resources : Denotes tree directory home written.resourcesDirectory layer.resourcesDirectory
  data : Denotes tree directory home written.dataDirectory layer.dataDirectory
  scratch : Denotes tree directory home written.scratchDirectory layer.scratchDirectory
  probe : layer.probeToolchain = written.probeToolchain

theorem denotes_under (hbase : ∀ after, tree.Keeps after → ∀ path, Path.isAbsolute path = false →
      after.follow directory (Path.join base path) = after.follow home path)
    (written : Option String) :
    Denotes tree directory home written (written.map (Path.join base)) := by
  cases written with
  | none => exact .unset
  | some path =>
    by_cases hpath : Path.isAbsolute path = true
    · rw [Option.map_some, Path.join_of_absolute hpath]
      exact .verbatim hpath
    · have hrelative := Bool.eq_false_iff.2 hpath
      exact .placed hrelative fun after hkeeps => hbase after hkeeps path hrelative

/-! ### Absolute forms of directories -/

/-- Under two bases with one absolute form, paths have one absolute form. -/
theorem map_whole_join {root base base' : String} (h : Path.whole root base = Path.whole root base')
    (written : Option String) : (written.map (Path.join base)).map (Path.whole root) =
      (written.map (Path.join base')).map (Path.whole root) := by
  cases written with
  | none => rfl
  | some path =>
    by_cases hpath : Path.isAbsolute path = true
    · simp only [Option.map_some, Path.join_of_absolute hpath]
    · have hrelative := Bool.eq_false_iff.2 hpath
      simp only [Option.map_some, Path.whole_join root _ hrelative, h]

/-- A layer between two others decides the absolute form by its own. -/
theorem whole_getD_or {root : String} {middle middle' : Option String}
    (h : middle.map (Path.whole root) = middle'.map (Path.whole root)) (above : Option String)
    (below : String) : Path.whole root ((above.or middle).getD below) =
      Path.whole root ((above.or middle').getD below) := by
  cases above with
  | some path => rfl
  | none =>
    cases middle with
    | none =>
      cases middle' with
      | none => rfl
      | some path => cases h
    | some path =>
      cases middle' with
      | none => cases h
      | some path' => exact Option.some.inj h

/-- The absolute forms of the directories in a configuration hang on those in its layer alone. -/
theorem whole_resolve (setting : Setting) (tree : FileTree) (lookup : Lookup) {root : String}
    (layer layer' : Layer)
    (hresources : layer.resourcesDirectory.map (Path.whole root) =
      layer'.resourcesDirectory.map (Path.whole root))
    (hdata : layer.dataDirectory.map (Path.whole root) =
      layer'.dataDirectory.map (Path.whole root)) :
    Path.whole root (resolve setting tree layer lookup).resourcesDirectory =
        Path.whole root (resolve setting tree layer' lookup).resourcesDirectory ∧
      Path.whole root (resolve setting tree layer lookup).dataDirectory =
        Path.whole root (resolve setting tree layer' lookup).dataDirectory :=
  ⟨whole_getD_or hresources _ _, whole_getD_or hdata _ _⟩

/-! ### Files that are named -/

/-- A file that is named by a path, or is the default file, gives its layer, in which each directory
lies where the file means it. -/
theorem exists_findLayer {named : Option String} (hdirectory : tree.IsReached directory)
    (hfind : tree.find directory (named.getD defaultFile) = .ok (file, .file content executable))
    (htext : Text.decode? content = some text) (hread : Layer.read text = .ok written)
    (hparent : Path.parent? (named.getD defaultFile) = some base) :
    findLayer tree directory named = .ok (written.under base) ∧
      IsPlaced tree directory file.dropLast written (written.under base) := by
  obtain ⟨hresolve, hat⟩ := FileTree.find_eq_ok_iff.1 hfind
  obtain ⟨-, hfollow⟩ := FileTree.resolve_eq_ok_iff.1 hresolve
  obtain ⟨base', hparent', hbase⟩ :=
    FileTree.follow_join_parent hdirectory hfollow (by rw [hat]; nofun)
  obtain rfl : base' = base := Option.some.inj (hparent'.symm.trans hparent)
  exact ⟨findLayer_of_layerAt (layerAt_of_find hfind htext hread hparent),
    denotes_under hbase _, denotes_under hbase _, denotes_under hbase _, rfl⟩

/-- A file that is named has to be found, so its path is one that the machine takes. -/
theorem checkPath_of_findLayer (h : findLayer tree directory (some path) = .ok layer) :
    checkPath path = .ok () := by
  cases hfind : tree.find directory path with
  | ok found =>
    obtain ⟨hresolve, -⟩ := FileTree.find_eq_ok_iff.1 hfind
    exact (FileTree.resolve_eq_ok_iff.1 hresolve).1
  | error fault =>
    have hmissing : layerAt tree directory path = .ok none := by
      rw [layerAt, FileTree.exists?, hfind, Bool.not_false, if_pos rfl]
    rw [findLayer, hmissing] at h
    cases h

/-- **What a configuration file means does not depend on how it is named.**  A file that is found at
a path, or is the default file, can be loaded by that path, and by the absolute form of the path
where the machine takes that.  By either name its layer has the directories that the file writes: an
absolute one as it is, and a relative one where it leads from the directory of the file.  In any
environment, for any host and any target, either gives the same toolchain, and this the same
variables to its tools. -/
theorem findLayer_absolute (setting : Setting) (named : Option String)
    (hdirectory : tree.IsReached setting.directory)
    (hfind : tree.find setting.directory (named.getD defaultFile) =
      .ok (file, .file content executable))
    (htext : Text.decode? content = some text) (hread : Layer.read text = .ok written) :
    ∃ layer absolute,
      findLayer tree setting.directory named = .ok layer ∧
      IsPlaced tree setting.directory file.dropLast written layer ∧
      Path.absolute? setting.directoryPath (named.getD defaultFile) = some absolute ∧
      (checkPath absolute = .ok () →
        ∃ layer', findLayer tree setting.directory (some absolute) = .ok layer') ∧
      ∀ layer', findLayer tree setting.directory (some absolute) = .ok layer' →
        IsPlaced tree setting.directory file.dropLast written layer' ∧
        ∀ (lookup : Lookup) (host target : Platform),
          let config := resolve setting tree layer lookup
          let config' := resolve setting tree layer' lookup
          let toolchain := Toolchain.expected setting config.resourcesDirectory host
          Toolchain.expected setting config'.resourcesDirectory host = toolchain ∧
          toolchain.environment setting target config'.dataDirectory =
            toolchain.environment setting target config.dataDirectory := by
  obtain ⟨hresolve, hat⟩ := FileTree.find_eq_ok_iff.1 hfind
  obtain ⟨-, hfollow⟩ := FileTree.resolve_eq_ok_iff.1 hresolve
  -- The path of a file ends in a name, so a path and its absolute form differ before it alone.
  obtain ⟨before, name, -, hpieces, hname, -⟩ :=
    FileTree.exists_name_of_follow hdirectory hfollow (by rw [hat]; nofun)
  obtain ⟨base, base', hparent, hparent', hwhole⟩ :=
    Path.whole_parent_whole hdirectory.isPlain_pathOf hpieces hname
  obtain ⟨hlayer, hplaced⟩ := exists_findLayer hdirectory hfind htext hread hparent
  have hload : checkPath (Path.whole setting.directoryPath (named.getD defaultFile)) = .ok () →
      findLayer tree setting.directory
          (some (Path.whole setting.directoryPath (named.getD defaultFile))) =
        .ok (written.under base') ∧
      IsPlaced tree setting.directory file.dropLast written (written.under base') := by
    intro hcheck
    have hfind' : tree.find setting.directory
        ((some (Path.whole setting.directoryPath (named.getD defaultFile))).getD defaultFile) =
          .ok (file, .file content executable) := by
      refine FileTree.find_eq_ok_iff.2 ⟨FileTree.resolve_eq_ok_iff.2 ⟨hcheck, ?_⟩, hat⟩
      exact (FileTree.follow_whole hdirectory hpieces hname).trans hfollow
    exact exists_findLayer hdirectory hfind' htext hread hparent'
  refine ⟨_, _, hlayer, hplaced, Path.absolute?_of_pieces _ hpieces hname,
    fun hcheck => ⟨_, (hload hcheck).1⟩, fun layer' h => ?_⟩
  obtain ⟨hlayer', hplaced'⟩ := hload (checkPath_of_findLayer h)
  obtain rfl : written.under base' = layer' := Except.ok.inj (hlayer'.symm.trans h)
  refine ⟨hplaced', fun lookup host target => ?_⟩
  -- The two bases are different texts, but a bundle looks at their absolute forms only.
  obtain ⟨hresources, hdata⟩ := whole_resolve setting tree lookup (written.under base')
    (written.under base) (map_whole_join hwhole written.resourcesDirectory)
    (map_whole_join hwhole written.dataDirectory)
  exact ⟨Toolchain.expected_congr host hresources, Toolchain.environment_congr _ target hdata⟩

/-- The text of a file that writes a relative directory. -/
def nestedText : String :=
  "data_dir=\"d\""

/-- A working directory, with a configuration file in a directory under it. -/
def nested : FileTree :=
  ⟨[(["w"], .directory), (["w", "c"], .directory),
    (["w", "c", "m.toml"], .file (Text.encode nestedText) false)]⟩

/-- The file of a directory under the working directory, by its relative and its absolute path. -/
theorem findLayer_absolute_nested :
    let setting : Setting := ⟨["w"], [], none, fun _ => ""⟩
    nested.IsReached setting.directory ∧
    nested.find setting.directory "./c/m.toml" =
      .ok (["w", "c", "m.toml"], .file (Text.encode nestedText) false) ∧
    Text.decode? (Text.encode nestedText) = some nestedText ∧
    Layer.read nestedText = .ok ⟨none, some "d", none, none⟩ ∧
    checkPath "/w/c/m.toml" = .ok () ∧
    ∃ layer layer',
      findLayer nested setting.directory (some "./c/m.toml") = .ok layer ∧
      findLayer nested setting.directory (some "/w/c/m.toml") = .ok layer' ∧
      IsPlaced nested setting.directory ["w", "c"] ⟨none, some "d", none, none⟩ layer ∧
      IsPlaced nested setting.directory ["w", "c"] ⟨none, some "d", none, none⟩ layer' ∧
      ∀ (lookup : Lookup) (host target : Platform),
        let config := resolve setting nested layer lookup
        let config' := resolve setting nested layer' lookup
        let toolchain := Toolchain.expected setting config.resourcesDirectory host
        Toolchain.expected setting config'.resourcesDirectory host = toolchain ∧
        toolchain.environment setting target config'.dataDirectory =
          toolchain.environment setting target config.dataDirectory := by
  intro setting
  have hdirectory : nested.IsReached setting.directory :=
    ⟨List.forall_mem_singleton.2 ⟨by decide, by decide, by decide⟩, rfl⟩
  have hfind : nested.find setting.directory "./c/m.toml" =
      .ok (["w", "c", "m.toml"], .file (Text.encode nestedText) false) := rfl
  have htext : Text.decode? (Text.encode nestedText) = some nestedText := Text.decode?_encode _
  have hread : Layer.read nestedText = .ok ⟨none, some "d", none, none⟩ :=
    FileTree.toOption_eq_some_iff.1 (by decide +kernel)
  have hcheck : checkPath "/w/c/m.toml" = .ok () := rfl
  obtain ⟨layer, absolute, hlayer, hplaced, habsolute, hload, hsame⟩ :=
    findLayer_absolute setting (some "./c/m.toml") hdirectory hfind htext hread
  have hpath : Path.absolute? "/w" "./c/m.toml" = some "/w/c/m.toml" := by
    rw [Path.absolute?_eq]
    rfl
  obtain rfl : absolute = "/w/c/m.toml" := Option.some.inj (habsolute.symm.trans hpath)
  obtain ⟨layer', hlayer'⟩ := hload hcheck
  obtain ⟨hplaced', hequal⟩ := hsame layer' hlayer'
  exact ⟨hdirectory, hfind, htext, hread, hcheck, layer, layer', hlayer, hlayer', hplaced, hplaced',
    hequal⟩

end MockServer.Config
