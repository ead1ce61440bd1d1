/-
What a build leaves behind.

A build that ends before it needs a workspace leaves the files as they were, but for the mode
of the toolchain's command and for what the toolchain does when it is asked for its version.
A build that gets further removes its workspace with everything in it, however it ends.  Main
statements:

* `sameOutside_filesOn` — the program is written into the workspace alone;
* `frame_of_course` — what every course leaves;
* `build_footprint` — what a build leaves.
-/
import MockServer.Proofs.Build.Stages
import MockServer.Proofs.FileTree.Frame

namespace MockServer.Build

open MockServer.FileTree

/-! ### Early faults -/

/-- The faults of a build that ends before it needs a workspace. -/
inductive Fault.IsEarly : Fault → Prop where
  | unsupportedHost (host : Host) : IsEarly (.unsupportedHost host)
  | cancelled : IsEarly .cancelled
  | invalidOutput (path : String) : IsEarly (invalidOutput path)
  | noToolchain (expected : String) : IsEarly (.noToolchain expected)
  | unusableToolchain (detail : String) : IsEarly (.unusableToolchain detail)

/-- Did a build end before it needed a workspace? -/
def Report.EndsEarly : Report → Prop
  | .ok _ => False
  | .error fault => fault.IsEarly

theorem not_isEarly_of_isWorkspaceFault {fault : Fault} (h : IsWorkspaceFault fault) :
    ¬ fault.IsEarly := by
  obtain ⟨detail, c, rfl, hhead, hc⟩ := h
  intro hearly
  -- Of the early faults only that of a path has words of this kind, and those begin otherwise.
  generalize hfault : Fault.workspace detail = fault at hearly
  cases hearly with
  | invalidOutput path =>
    cases hfault
    have hwords := head?_toList_append (c := 'i') (s := "invalid output path ") rfl path
    have hdetail := head?_toList_append hwords ": cannot make an empty path absolute"
    exact hc (Option.some.inj (hhead.symm.trans hdetail))
  | _ => cases hfault

/-- The stages before the workspace are those with early faults. -/
theorem isEarly_iff_of_reports {stage : Stage} {fault : Fault} (h : stage.Reports fault) :
    fault.IsEarly ↔ stage.rank ≤ Stage.probe.rank := by
  cases h with
  | unsupported host => exact iff_of_true (.unsupportedHost host) (by decide)
  | cancelled => exact iff_of_true .cancelled (by decide)
  | misdirected path => exact iff_of_true (.invalidOutput path) (by decide)
  | missing absolute => exact iff_of_true (.noToolchain _) (by decide)
  | unusable detail => exact iff_of_true (.unusableToolchain detail) (by decide)
  | unprepared h => exact iff_of_false (not_isEarly_of_isWorkspaceFault h) (by decide)
  | notStarted command reason => exact iff_of_false nofun (by decide)
  | failed code errors => exact iff_of_false nofun (by decide)
  | unproduced errors => exact iff_of_false nofun (by decide)

/-! ### Workspaces -/

/-- Two trees are the same but for the directory for workspaces, where one is configured, and
those above it. -/
def ScratchMade (setting : Setting) (config : Config) (before after : FileTree) : Prop :=
  match config.scratchDirectory with
  | none => after = before
  | some path => DirectoriesMade setting.directory path before after

section

variable {setting : Setting} {config : Config} {tree : FileTree} {workspace : Workspace}

theorem parentOn_snd (setting : Setting) (config : Config) (tree : FileTree) :
    (Workspace.parentOn setting config tree).2 = match config.scratchDirectory with
      | none => tree
      | some path => (tree.makeDirectories setting.directory path).1 := by
  rw [Workspace.parentOn]
  cases config.scratchDirectory with
  | none => rfl
  | some path =>
    dsimp only
    rcases tree.makeDirectories setting.directory path with ⟨made, _ | _⟩ <;> rfl

theorem scratchMade_parentOn (setting : Setting) (config : Config) (tree : FileTree) :
    ScratchMade setting config tree (Workspace.parentOn setting config tree).2 := by
  rw [ScratchMade, parentOn_snd]
  cases config.scratchDirectory with
  | none => rfl
  | some path => exact directoriesMade_makeDirectories tree setting.directory path

theorem isClosed_parentOn (h : tree.IsClosed) :
    (Workspace.parentOn setting config tree).2.IsClosed := by
  rw [parentOn_snd]
  cases config.scratchDirectory with
  | none => exact h
  | some path => exact isClosed_makeDirectories h setting.directory path

/-- A workspace that cannot be made leaves no more than the directory for workspaces. -/
theorem makeOn_of_error {fault : Fault} (h : (Workspace.makeOn setting config tree).1 = .error fault) :
    (Workspace.makeOn setting config tree).2 = (Workspace.parentOn setting config tree).2 := by
  rw [Workspace.makeOn] at h ⊢
  rcases hparent : Workspace.parentOn setting config tree with ⟨f | parent, above⟩
  · rfl
  · rw [hparent] at h
    exact congrArg (Workspace.enteredOn above) h

/-- A workspace is a new directory at a free place. -/
theorem makeOn_of_ok (h : (Workspace.makeOn setting config tree).1 = .ok workspace) :
    (Workspace.parentOn setting config tree).2.freePlace setting.directory workspace.path =
        .ok workspace.place ∧
      (Workspace.makeOn setting config tree).2 =
        (Workspace.parentOn setting config tree).2.set workspace.place .directory := by
  rw [Workspace.makeOn] at h ⊢
  rcases hparent : Workspace.parentOn setting config tree with ⟨f | parent, above⟩
  · rw [hparent] at h
    cases h
  · rw [hparent] at h
    refine ⟨?_, congrArg (Workspace.enteredOn above) h⟩
    cases Workspace.choose_eq_iff.1 h with
    | free short taken free => exact free

end

/-! ### Writing the program -/

section

variable {directory root : Place} {path text : String} {tree tree' : FileTree}

theorem textOn_join {name : String} {force : Bool} (hname : Path.IsName name)
    (hresolve : tree.resolve directory path = .ok root)
    (h : Program.textOn directory (Path.join path name) text force tree = .ok tree') :
    SameOutside root tree tree' ∧ tree.Keeps tree' := by
  exact write_join hname hresolve (Program.textOn_eq_ok_iff.1 h).2

/-- The program is written into the directory of its path alone, where that is there. -/
theorem sameOutside_filesOn {program : Program} {force : Bool}
    (hresolve : tree.resolve directory path = .ok root)
    (hmade : tree.makeDirectories directory path = (tree, .ok ())) :
    SameOutside root tree (Program.filesOn directory program path force tree).2 := by
  rw [Program.filesOn, hmade]
  dsimp only
  cases hmain : Program.textOn directory (Path.join path Program.mainName) program.mainFile force
      tree with
  | error fault => exact .refl root tree
  | ok half =>
    obtain ⟨hhalf, hkeeps⟩ := textOn_join Program.isName_mainName hresolve hmain
    dsimp only
    cases hmodule : Program.textOn directory (Path.join path Program.moduleName) program.moduleFile
        force half with
    | error fault => exact hhalf
    | ok whole =>
      obtain ⟨hwhole, -⟩ := textOn_join Program.isName_moduleName
        (resolve_of_keeps hkeeps hresolve) hmodule
      exact hhalf.trans hwhole

/-- A directory that was made at the free place of a path need not be made again. -/
theorem makeDirectories_of_freePlace (h : tree.freePlace directory path = .ok root) :
    (tree.set root .directory).makeDirectories directory path =
      (tree.set root .directory, .ok ()) := by
  have hresolve := resolve_of_freePlace h
  have hroot : (tree.set root .directory).at? root = some .directory :=
    at?_set_self (ne_nil_of_at?_eq_none (at?_of_freePlace h)) _
  have hpath := ne_empty_of_checkPath (resolve_eq_ok_iff.1 hresolve).1
  exact makeDirectories_of_exists hpath (freePlace_of_set h) (isDirectory_of_resolve hresolve hroot)

end

/-! ### Courses -/

namespace Call

section

variable (call : Call)

/-- The files where a workspace is needed: the toolchain's command may have got another mode,
and where the toolchain was asked for its version, it did with the files what it does. -/
structure Probed (host : Platform) (probed : FileTree) : Prop where
  known : call.host? = some host
  located : call.isLocated host = true
  left : ∃ marked,
    SameButMode call.setting.directory (call.command host) call.tree marked ∧
      probed = if call.builder.config.probeToolchain
        then (call.tools (call.versionLaunch host) marked).2 else marked

/-- The files of a build that ends before it needs a workspace: they are as they were, or the
toolchain was found and cannot be used. -/
inductive Untouched (report : Report) : FileTree → Prop where
  | same : Untouched report call.tree
  | probed {host : Platform} {probed : FileTree} {detail : String}
      (unusable : report = .error (.unusableToolchain detail))
      (toolchain : call.Probed host probed) : Untouched report probed

/-- The way of the files through a workspace: it is new, the builder fills it and changes
nothing outside it, the toolchain may build, a success marks the executable, and in the end
the workspace is removed with everything in it. -/
structure Visit (host : Platform) (report : Report) (workspace : Workspace)
    (parented filled built ended final : FileTree) : Prop where
  fresh : parented.at? workspace.place = none
  fills : SameOutside workspace.place parented filled
  builds : built = filled ∨ ∃ output, call.output? = some output ∧
    built = (call.tools (call.buildLaunch host workspace output) filled).2
  marks : ended = built ∨ ∃ product, report = .ok product ∧
    SameButMode call.setting.directory product.path built ended
  gone : IsGone workspace.place final
  outside : SameOutside workspace.place ended final

/-- The files of a build that gets as far as its workspace.  In a tree in which every entry
stands in a directory nothing at all was where the workspace is made, so its removal takes
nothing else away. -/
inductive Tidied (report : Report) : FileTree → Prop where
  | unmade {host : Platform} {probed parented : FileTree} (toolchain : call.Probed host probed)
      (scratch : ScratchMade call.setting call.builder.config probed parented) :
      Tidied report parented
  | removed {host : Platform} {probed parented filled built ended final : FileTree}
      {workspace : Workspace} (toolchain : call.Probed host probed)
      (scratch : ScratchMade call.setting call.builder.config probed parented)
      (empty : probed.IsClosed → IsGone workspace.place parented)
      (visit : call.Visit host report workspace parented filled built ended final) :
      Tidied report final

end

variable {call : Call} {host : Platform} {output : String} {workspace : Workspace}

theorem sameButMode_madeExecutable (directory : Place) (path : String) (tree : FileTree) :
    SameButMode directory path tree (madeExecutable directory path tree) := by
  rw [madeExecutable]
  cases hmark : tree.makeExecutable directory path with
  | ok marked => exact sameButMode_of_makeExecutable hmark
  | error fault => exact .refl directory path tree

theorem probed_of_located (known : call.host? = some host) (located : call.isLocated host = true) :
    call.Probed host (call.probed host) :=
  ⟨known, located, call.marked host, sameButMode_madeExecutable _ _ _, rfl⟩

/-- The files with the directory for workspaces. -/
def parented (call : Call) (host : Platform) : FileTree :=
  (Workspace.parentOn call.setting call.builder.config (call.probed host)).2

/-- The program is written into the workspace alone. -/
theorem sameOutside_written (made : (call.made host).1 = .ok workspace) :
    SameOutside workspace.place (call.parented host) (call.written host workspace).2 := by
  obtain ⟨hfree, hset⟩ := makeOn_of_ok made
  have hmade : (call.made host).2 = (call.parented host).set workspace.place .directory := hset
  have hwritten : SameOutside workspace.place (call.made host).2 (call.written host workspace).2 := by
    rw [written, hmade]
    exact sameOutside_filesOn (resolve_of_freePlace hfree) (makeDirectories_of_freePlace hfree)
  rw [hmade] at hwritten
  exact (sameOutside_set _ List.prefix_rfl _).trans hwritten

/-- A workspace is removed, whatever became of it. -/
theorem tidied_of_made {report : Report} {built ended : FileTree} (known : call.host? = some host)
    (located : call.isLocated host = true) (made : (call.made host).1 = .ok workspace)
    (builds : built = (call.written host workspace).2 ∨ ∃ output, call.output? = some output ∧
      built = (call.tools (call.buildLaunch host workspace output) (call.written host workspace).2).2)
    (marks : ended = built ∨ ∃ product, report = .ok product ∧
      SameButMode call.setting.directory product.path built ended) :
    call.Tidied report (ended.remove workspace.place) := by
  obtain ⟨hfree, -⟩ := makeOn_of_ok made
  have hnone : (call.parented host).at? workspace.place = none := at?_of_freePlace hfree
  refine .removed (probed_of_located known located) (scratchMade_parentOn _ _ _) ?_
    ⟨hnone, sameOutside_written made, builds, marks,
      isGone_remove (ne_nil_of_at?_eq_none hnone) ended, sameOutside_remove workspace.place ended⟩
  -- Where every entry stands in a directory, nothing is under a free place either.
  intro hclosed place hplace
  exact (isClosed_parentOn hclosed).at?_eq_none hnone hplace

/-- A build in a workspace that fails. -/
theorem tidied_of_prepared {report : Report} (prepared : call.Prepared host output workspace) :
    call.Tidied report ((call.built host workspace output).2.remove workspace.place) :=
  tidied_of_made prepared.known prepared.located prepared.made
    (.inr ⟨output, output?_of_aimed prepared.toAimed, rfl⟩) (.inl rfl)

theorem not_endsEarly_of_failsFirst {stage : Stage} {fault : Fault}
    (h : call.FailsFirst stage fault) (hrank : ¬ stage.rank ≤ Stage.probe.rank) :
    ¬ fault.IsEarly :=
  fun hearly => hrank ((isEarly_iff_of_reports (reports_of_fault h.fails)).1 hearly)

theorem endsEarly_of_failsFirst {stage : Stage} {fault : Fault}
    (h : call.FailsFirst stage fault) (hrank : stage.rank ≤ Stage.probe.rank) : fault.IsEarly :=
  (isEarly_iff_of_reports (reports_of_fault h.fails)).2 hrank

/-- What every course leaves. -/
theorem frame_of_course {result : Except Fault String} {tree : FileTree} {launches : List Launch}
    (h : call.Course result tree launches) :
    (Builder.reportOf result).EndsEarly ∧ call.Untouched (Builder.reportOf result) tree ∨
      ¬ (Builder.reportOf result).EndsEarly ∧ call.Tidied (Builder.reportOf result) tree := by
  cases h with
  | unsupported unknown =>
    exact .inl ⟨endsEarly_of_failsFirst (failsFirst_unsupported unknown) (by decide), .same⟩
  | cancelled known declined =>
    exact .inl ⟨endsEarly_of_failsFirst (failsFirst_cancelled known declined) (by decide), .same⟩
  | misdirected known answered relative =>
    have hfirst := failsFirst_misdirected known answered relative
    exact .inl ⟨endsEarly_of_failsFirst hfirst (by decide), .same⟩
  | missing aimed absent =>
    exact .inl ⟨endsEarly_of_failsFirst (failsFirst_missing aimed absent) (by decide), .same⟩
  | unusable aimed located failed =>
    have hfirst := failsFirst_unusable aimed located failed
    refine .inl ⟨endsEarly_of_failsFirst hfirst (by decide), ?_⟩
    cases reports_of_fault hfirst.fails with
    | unusable detail => exact .probed rfl (probed_of_located aimed.known located)
  | @unmade host _ _ equipped failed =>
    have hfirst := failsFirst_unprepared equipped (workspaceFault?_of_unmade failed)
    have hleft : (call.made host).2 = call.parented host := makeOn_of_error failed
    rw [hleft]
    exact .inr ⟨not_endsEarly_of_failsFirst hfirst (by decide),
      .unmade (probed_of_located equipped.known equipped.located) (scratchMade_parentOn _ _ _)⟩
  | unwritten equipped made failed =>
    have hfirst := failsFirst_unprepared equipped (workspaceFault?_of_unwritten made failed)
    exact .inr ⟨not_endsEarly_of_failsFirst hfirst (by decide),
      tidied_of_made equipped.known equipped.located made (.inl rfl) (.inl rfl)⟩
  | unbuilt prepared failed =>
    exact .inr ⟨not_endsEarly_of_failsFirst (failsFirst_unbuilt prepared failed) (by decide),
      tidied_of_prepared prepared⟩
  | unproduced prepared built absent =>
    have hfirst := failsFirst_unproduced prepared built absent
    exact .inr ⟨not_endsEarly_of_failsFirst hfirst (by decide), tidied_of_prepared prepared⟩
  | produced prepared built present =>
    refine .inr ⟨id, tidied_of_made prepared.known prepared.located prepared.made
      (.inr ⟨_, output?_of_aimed prepared.toAimed, rfl⟩) (.inr ⟨_, rfl, ?_⟩)⟩
    exact sameButMode_madeExecutable _ _ _

end Call

/-- **What a build leaves behind.**  A build that ends before it needs a workspace touches no
file but the toolchain's command, of which it may change the mode, and leaves the rest to the
toolchain when that is asked for its version.  A build that gets further removes the workspace
that it made, however it ends, and apart from what the toolchain does it makes no more than the
directory for workspaces and changes no more than modes. -/
theorem build_footprint (tools : Launcher) (setting : Setting) (builder : Builder)
    (session : Session) (request : TargetRequest) (prompt : Prompt) (m : Machine) :
    let call := builder.call tools setting session request prompt m.tree
    let ((report, _), m') := (builder.build tools setting session request prompt).run m
    (report.EndsEarly → call.Untouched report m'.tree) ∧
      (¬ report.EndsEarly → call.Tidied report m'.tree) := by
  intro call
  obtain ⟨result, tree', launches, events, hcourse, -, hrun⟩ :=
    exists_course_of_build tools setting builder session request prompt m
  rw [hrun]
  rcases Call.frame_of_course hcourse with ⟨hearly, huntouched⟩ | ⟨hlate, htidied⟩
  · exact ⟨fun _ => huntouched, fun hlate => absurd hearly hlate⟩
  · exact ⟨fun hearly => absurd hearly hlate, fun _ => htidied⟩

end MockServer.Build
