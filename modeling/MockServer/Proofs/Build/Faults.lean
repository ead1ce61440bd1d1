/-
The faults of the stages.

A build goes through eight stages, and each of them may fail in ways of its own.  `Call.Fails`
lists these ways, by what the machine and the tools do.  `Call.fault` finds what a stage fails
with, whether or not an earlier stage fails too: a stage looks itself at what it needs.  Main
statements:

* `platform?_eq_some_iff` — the hosts for which a toolchain is bundled, as they name themselves;
* `absolute?_bundle` — where the bundle of a host is;
* `fault_eq_some_iff` — every stage fails in its own ways;
* `reports_of_fault` — every stage fails with faults of its own kind.
-/
import MockServer.Proofs.Build.Course
import MockServer.Proofs.FileTree.Resolve

namespace MockServer

/-! ### Hosts -/

/-- The systems with a bundled toolchain, as hosts name them. -/
def hostSystems : List (String × OperatingSystem) :=
  [("windows", .windows), ("macos", .darwin)]

/-- The architectures with a bundled toolchain, as hosts name them. -/
def hostArchitectures : List (String × Architecture) :=
  [("x86_64", .amd64), ("aarch64", .arm64)]

theorem platform?_eq_some_iff {host : Host} {platform : Platform} :
    host.platform? = some platform ↔ (host.system, platform.system) ∈ hostSystems ∧
      (host.architecture, platform.architecture) ∈ hostArchitectures := by
  obtain ⟨system, architecture⟩ := host
  obtain ⟨system', architecture'⟩ := platform
  simp only [Host.platform?, hostSystems, hostArchitectures, List.mem_cons, List.not_mem_nil,
    or_false, Prod.mk.injEq]
  split <;> split <;> simp_all [eq_comm]

namespace Build

/-! ### Stages -/

/-- The stages at which a build may fail. -/
inductive Stage where
  | host
  | answer
  | output
  | toolchain
  | probe
  | workspace
  | compilation
  | product
  deriving DecidableEq, Repr

/-- A fault of the workspace.  Its words do not begin as those of a path that cannot be made
absolute, so that the two can be told apart. -/
def IsWorkspaceFault (fault : Fault) : Prop :=
  ∃ detail c, fault = .workspace detail ∧ detail.toList.head? = some c ∧ c ≠ 'i'

/-- The faults with which each stage may fail. -/
inductive Stage.Reports : Stage → Fault → Prop where
  | unsupported (host : Host) : Reports .host (.unsupportedHost host)
  | cancelled : Reports .answer .cancelled
  | misdirected (path : String) : Reports .output (invalidOutput path)
  | missing {expected : String} (absolute : Path.isAbsolute expected = true) :
      Reports .toolchain (.noToolchain expected)
  | unusable (detail : String) : Reports .probe (.unusableToolchain detail)
  | unprepared {fault : Fault} (h : IsWorkspaceFault fault) : Reports .workspace fault
  | notStarted (command reason : String) : Reports .compilation (.notStarted command reason)
  | failed (code : Option Int) (errors : String) : Reports .compilation (.failed code errors)
  | unproduced (errors : String) : Reports .product (.failed (some 0) errors)

/-! ### Faults of the workspace -/

theorem head?_toList_append {s : String} {c : Char} (h : s.toList.head? = some c) (t : String) :
    (s ++ t).toList.head? = some c := by
  rw [String.toList_append, List.head?_append, h]
  rfl

theorem exists_head?_message (fault : FileFault) :
    ∃ c, fault.message.toList.head? = some c ∧ c ≠ 'i' := by
  obtain ⟨c, hreason, hc⟩ : ∃ c, fault.reason.toList.head? = some c ∧ c ≠ 'i' := by
    cases fault <;> exact ⟨_, rfl, by decide⟩
  refine ⟨c, ?_, hc⟩
  unfold FileFault.message
  split
  · exact head?_toList_append (head?_toList_append (head?_toList_append hreason _) _) _
  · exact hreason

theorem isWorkspaceFault_message (fault : FileFault) :
    IsWorkspaceFault (.workspace fault.message) := by
  obtain ⟨c, hhead, hc⟩ := exists_head?_message fault
  exact ⟨_, c, rfl, hhead, hc⟩

theorem isWorkspaceFault_notMade (path : String) (fault : FileFault) :
    IsWorkspaceFault (Workspace.notMade path fault) := by
  obtain ⟨c, hhead, hc⟩ := exists_head?_message fault
  exact ⟨_, c, rfl, head?_toList_append (head?_toList_append hhead _) _, hc⟩

theorem isWorkspaceFault_writeFault (fault : Program.WriteFault) :
    IsWorkspaceFault (.workspace fault.message) := by
  cases fault with
  | noDirectory path fault =>
    refine ⟨_, 'F', rfl, head?_toList_append (head?_toList_append ?_ _) _, by decide⟩
    exact head?_toList_append rfl path
  | noFile path fault =>
    refine ⟨_, 'F', rfl, head?_toList_append (head?_toList_append ?_ _) _, by decide⟩
    exact head?_toList_append rfl path

theorem isWorkspaceFault_crowded (base : String) : IsWorkspaceFault (Workspace.crowded base) :=
  ⟨_, 't', rfl, head?_toList_append rfl _, by decide⟩

theorem isWorkspaceFault_of_unmade {setting : Setting} {config : Config} {tree : FileTree}
    {fault : Fault} (h : Workspace.Unmade setting config tree fault) : IsWorkspaceFault fault := by
  cases h with
  | @parentless path fault configured fails => exact isWorkspaceFault_message fault
  | placeless parented fails =>
    cases fails with
    | @barred n fault short taken fails other => exact isWorkspaceFault_notMade _ fault
    | crowded taken => exact isWorkspaceFault_crowded _

/-! ### Absolute paths -/

theorem isAbsolute_directoryPath (setting : Setting) :
    Path.isAbsolute setting.directoryPath = true :=
  Path.isAbsolute_append (by decide) _

/-- A bundle lies at the absolute path of the one under the directory with all bundles. -/
theorem absolute?_bundle (setting : Setting) (resources : String) (host : Platform) :
    Path.absolute? setting.directoryPath (Path.join (Path.join resources "go") host.bundleKey) =
      some (Toolchain.rootFor setting resources host) := by
  have hkey : host.bundleKey ≠ "" := by
    obtain ⟨system, architecture⟩ := host
    cases system <;> cases architecture <;> decide
  rw [Toolchain.rootFor, Toolchain.absolutely]
  cases hroot : Path.absolute? setting.directoryPath
      (Path.join (Path.join resources "go") host.bundleKey) with
  | none => exact absurd (Path.absolute?_eq_none_iff.1 hroot) (Path.join_ne_empty _ hkey)
  | some root => rfl

theorem isAbsolute_rootFor (setting : Setting) (resources : String) (host : Platform) :
    Path.isAbsolute (Toolchain.rootFor setting resources host) = true :=
  Path.isAbsolute_of_absolute? (isAbsolute_directoryPath setting)
    (absolute?_bundle setting resources host)

namespace Call

variable (call : Call)

/-- The path of the executable, where an absolute one was chosen. -/
def output? : Option String :=
  call.host?.bind fun host => (call.answer? host).bind (Path.absolute? call.setting.directoryPath)

/-- The fault of the workspace: it cannot be made, or the program cannot be written into it. -/
def workspaceFault? (host : Platform) : Option Fault :=
  match (call.made host).1 with
  | .error fault => some fault
  | .ok workspace =>
    match (call.written host workspace).1 with
    | .error fault => some (.workspace fault.message)
    | .ok () => none

/-- The machine says that it is one of the hosts for which a toolchain is bundled. -/
structure HasHost (host : Platform) : Prop where
  system : (call.builder.host.system, host.system) ∈ hostSystems
  architecture : (call.builder.host.architecture, host.architecture) ∈ hostArchitectures

/-- The ways in which each stage may fail.  A stage looks at what it needs itself, so the stages
before it need not have been passed. -/
inductive Fails : Stage → Fault → Prop where
  | unsupported (unknown : ∀ host, ¬ call.HasHost host) :
      Fails .host (.unsupportedHost call.builder.host)
  | cancelled {host : Platform} (on : call.HasHost host) (declined : call.answer? host = none) :
      Fails .answer .cancelled
  -- The empty path is the only one that cannot be made absolute.
  | misdirected {host : Platform} (on : call.HasHost host)
      (answered : call.answer? host = some "") : Fails .output (invalidOutput "")
  | missing {host : Platform} (on : call.HasHost host)
      (absent : call.tree.isFile call.setting.directory (call.command host) = false) :
      Fails .toolchain (.noToolchain (call.command host))
  | unprobed {host : Platform} {reason : String} (on : call.HasHost host)
      (wanted : call.builder.config.probeToolchain = true)
      (behaves : (call.version host).1 = .notStarted reason) :
      Fails .probe (.unusableToolchain reason)
  | unusable {host : Platform} {pieces : List Piece} {code : Option Int} (on : call.HasHost host)
      (wanted : call.builder.config.probeToolchain = true)
      (behaves : (call.version host).1 = .ended pieces code) (failed : code ≠ some 0) :
      Fails .probe (.unusableToolchain (Fault.failedMessage code (errorText pieces)))
  | unmade {host : Platform} {fault : Fault} (on : call.HasHost host)
      (failed : Workspace.Unmade call.setting call.builder.config (call.probed host) fault) :
      Fails .workspace fault
  | unwritten {host : Platform} {workspace : Workspace} {fault : Program.WriteFault}
      (on : call.HasHost host) (made : (call.made host).1 = .ok workspace)
      (failed : (call.written host workspace).1 = .error fault) :
      Fails .workspace (.workspace fault.message)
  | unstarted {host : Platform} {output reason : String} {workspace : Workspace}
      (on : call.HasHost host) (chosen : call.output? = some output)
      (made : (call.made host).1 = .ok workspace)
      (behaves : (call.built host workspace output).1 = .notStarted reason) :
      Fails .compilation (.notStarted (call.command host) reason)
  | unbuilt {host : Platform} {output : String} {workspace : Workspace} {pieces : List Piece}
      {code : Option Int} (on : call.HasHost host) (chosen : call.output? = some output)
      (made : (call.made host).1 = .ok workspace)
      (behaves : (call.built host workspace output).1 = .ended pieces code)
      (failed : code ≠ some 0) : Fails .compilation (.failed code (errorText pieces))
  | unproduced {host : Platform} {output : String} {workspace : Workspace}
      (on : call.HasHost host) (chosen : call.output? = some output)
      (made : (call.made host).1 = .ok workspace)
      (absent : (call.built host workspace output).2.isFile call.setting.directory output = false) :
      Fails .product (notProduced output)

/-- What a stage fails with, whatever the other stages do. -/
def fault : Stage → Option Fault
  | .host => if call.host? = none then some (.unsupportedHost call.builder.host) else none
  | .answer => call.host?.bind fun host =>
      if call.answer? host = none then some .cancelled else none
  | .output => call.host?.bind fun host => (call.answer? host).bind fun path =>
      if Path.absolute? call.setting.directoryPath path = none then some (invalidOutput path)
      else none
  | .toolchain => call.host?.bind fun host =>
      if call.isLocated host then none else some (.noToolchain (call.command host))
  | .probe => call.host?.bind call.versionFault?
  | .workspace => call.host?.bind call.workspaceFault?
  | .compilation => call.host?.bind fun host => call.output?.bind fun output =>
      (call.made host).1.toOption.bind fun workspace => call.buildFault? host workspace output
  | .product => call.host?.bind fun host => call.output?.bind fun output =>
      (call.made host).1.toOption.bind fun workspace =>
        if call.isProduced host workspace output then none else some (notProduced output)

variable {call}

theorem isAbsolute_command (call : Call) (host : Platform) :
    Path.isAbsolute (call.command host) = true :=
  Path.isAbsolute_join (Path.isAbsolute_join (isAbsolute_rootFor _ _ host) "bin") _

theorem isAbsolute_of_output? {output : String} (h : call.output? = some output) :
    Path.isAbsolute output = true := by
  obtain ⟨host, -, h⟩ := Option.bind_eq_some_iff.1 h
  obtain ⟨path, -, h⟩ := Option.bind_eq_some_iff.1 h
  exact Path.isAbsolute_of_absolute? (isAbsolute_directoryPath _) h

/-- The host is known where it is one of those with a toolchain. -/
theorem host?_eq_some_iff {host : Platform} : call.host? = some host ↔ call.HasHost host :=
  platform?_eq_some_iff.trans ⟨fun h => ⟨h.1, h.2⟩, fun h => ⟨h.system, h.architecture⟩⟩

section

variable {host : Platform} {fault : Fault}

theorem fails_of_versionFault? (on : call.HasHost host) (h : call.versionFault? host = some fault) :
    call.Fails .probe fault := by
  obtain ⟨wanted, hfault⟩ := Option.ite_none_right_eq_some.1 h
  cases hbehaves : (call.version host).1 with
  | notStarted reason =>
    rw [hbehaves] at hfault
    cases hfault
    exact .unprobed on wanted hbehaves
  | ended pieces code =>
    rw [hbehaves] at hfault
    obtain ⟨failed, ⟨⟩⟩ := Option.ite_none_left_eq_some.1 hfault
    exact .unusable on wanted hbehaves failed

theorem fails_of_workspaceFault? (on : call.HasHost host)
    (h : call.workspaceFault? host = some fault) : call.Fails .workspace fault := by
  rw [workspaceFault?] at h
  cases hmade : (call.made host).1 with
  | error f =>
    rw [hmade] at h
    cases h
    exact .unmade on (Workspace.makeOn_eq_error_iff.1 hmade)
  | ok workspace =>
    rw [hmade] at h
    dsimp only at h
    cases hwritten : (call.written host workspace).1 with
    | error f =>
      rw [hwritten] at h
      cases h
      exact .unwritten on hmade hwritten
    | ok _ =>
      rw [hwritten] at h
      cases h

theorem fails_of_buildFault? {output : String} {workspace : Workspace} (on : call.HasHost host)
    (chosen : call.output? = some output) (made : (call.made host).1 = .ok workspace)
    (h : call.buildFault? host workspace output = some fault) : call.Fails .compilation fault := by
  rw [buildFault?] at h
  cases hbehaves : (call.built host workspace output).1 with
  | notStarted reason =>
    rw [hbehaves] at h
    cases h
    exact .unstarted on chosen made hbehaves
  | ended pieces code =>
    rw [hbehaves] at h
    obtain ⟨failed, ⟨⟩⟩ := Option.ite_none_left_eq_some.1 h
    exact .unbuilt on chosen made hbehaves failed

end

theorem fails_of_fault {stage : Stage} {fault : Fault} (h : call.fault stage = some fault) :
    call.Fails stage fault := by
  cases stage with
  | host =>
    obtain ⟨unknown, ⟨⟩⟩ := Option.ite_none_right_eq_some.1 h
    refine .unsupported fun host on => ?_
    cases unknown.symm.trans (host?_eq_some_iff.2 on)
  | answer =>
    obtain ⟨host, known, h⟩ := Option.bind_eq_some_iff.1 h
    obtain ⟨declined, ⟨⟩⟩ := Option.ite_none_right_eq_some.1 h
    exact .cancelled (host?_eq_some_iff.1 known) declined
  | output =>
    obtain ⟨host, known, h⟩ := Option.bind_eq_some_iff.1 h
    obtain ⟨path, answered, h⟩ := Option.bind_eq_some_iff.1 h
    obtain ⟨relative, ⟨⟩⟩ := Option.ite_none_right_eq_some.1 h
    cases Path.absolute?_eq_none_iff.1 relative
    exact .misdirected (host?_eq_some_iff.1 known) answered
  | toolchain =>
    obtain ⟨host, known, h⟩ := Option.bind_eq_some_iff.1 h
    obtain ⟨absent, ⟨⟩⟩ := Option.ite_none_left_eq_some.1 h
    exact .missing (host?_eq_some_iff.1 known) (eq_false_of_ne_true absent)
  | probe =>
    obtain ⟨host, known, h⟩ := Option.bind_eq_some_iff.1 h
    exact fails_of_versionFault? (host?_eq_some_iff.1 known) h
  | workspace =>
    obtain ⟨host, known, h⟩ := Option.bind_eq_some_iff.1 h
    exact fails_of_workspaceFault? (host?_eq_some_iff.1 known) h
  | compilation =>
    obtain ⟨host, known, h⟩ := Option.bind_eq_some_iff.1 h
    obtain ⟨output, chosen, h⟩ := Option.bind_eq_some_iff.1 h
    obtain ⟨workspace, made, h⟩ := Option.bind_eq_some_iff.1 h
    exact fails_of_buildFault? (host?_eq_some_iff.1 known) chosen
      (FileTree.toOption_eq_some_iff.1 made) h
  | product =>
    obtain ⟨host, known, h⟩ := Option.bind_eq_some_iff.1 h
    obtain ⟨output, chosen, h⟩ := Option.bind_eq_some_iff.1 h
    obtain ⟨workspace, made, h⟩ := Option.bind_eq_some_iff.1 h
    obtain ⟨absent, ⟨⟩⟩ := Option.ite_none_left_eq_some.1 h
    exact .unproduced (host?_eq_some_iff.1 known) chosen (FileTree.toOption_eq_some_iff.1 made)
      (eq_false_of_ne_true absent)

theorem fault_of_fails {stage : Stage} {fault : Fault} (h : call.Fails stage fault) :
    call.fault stage = some fault := by
  cases h with
  | unsupported unknown =>
    refine if_pos (Option.eq_none_iff_forall_ne_some.2 fun host known => ?_)
    exact unknown host (host?_eq_some_iff.1 known)
  | cancelled on declined =>
    simp only [Call.fault, host?_eq_some_iff.2 on, declined, Option.bind_some, if_true]
  | misdirected on answered =>
    simp only [Call.fault, host?_eq_some_iff.2 on, answered, Path.absolute?_empty,
      Option.bind_some, if_true]
  | missing on absent =>
    simp only [Call.fault, host?_eq_some_iff.2 on, isLocated, absent, Option.bind_some,
      Bool.false_eq_true, if_false]
  | unprobed on wanted behaves =>
    simp only [Call.fault, host?_eq_some_iff.2 on, versionFault?, wanted, behaves, probeFault?,
      Option.bind_some, if_true]
  | unusable on wanted behaves failed =>
    simp only [Call.fault, host?_eq_some_iff.2 on, versionFault?, wanted, behaves, probeFault?,
      failed, Option.bind_some, if_true, if_false]
  | unmade on failed =>
    have hmade := Workspace.makeOn_eq_error_iff.2 failed
    simp only [Call.fault, host?_eq_some_iff.2 on, workspaceFault?, made, hmade, Option.bind_some]
  | unwritten on made failed =>
    simp only [Call.fault, host?_eq_some_iff.2 on, workspaceFault?, made, failed, Option.bind_some]
  | unstarted on chosen made behaves =>
    simp only [Call.fault, host?_eq_some_iff.2 on, chosen, FileTree.toOption_eq_some_iff.2 made,
      buildFault?, behaves, compileFault?, Option.bind_some]
  | unbuilt on chosen made behaves failed =>
    simp only [Call.fault, host?_eq_some_iff.2 on, chosen, FileTree.toOption_eq_some_iff.2 made,
      buildFault?, behaves, compileFault?, failed, Option.bind_some, if_false]
  | unproduced on chosen made absent =>
    simp only [Call.fault, host?_eq_some_iff.2 on, chosen, FileTree.toOption_eq_some_iff.2 made,
      isProduced, absent, Option.bind_some, Bool.false_eq_true, if_false]

theorem fault_eq_some_iff {stage : Stage} {fault : Fault} :
    call.fault stage = some fault ↔ call.Fails stage fault :=
  ⟨fails_of_fault, fault_of_fails⟩

/-- Every stage fails with faults of its own kind. -/
theorem reports_of_fault {stage : Stage} {fault : Fault} (h : call.fault stage = some fault) :
    stage.Reports fault := by
  cases fails_of_fault h with
  | unsupported unknown => exact .unsupported _
  | cancelled on declined => exact .cancelled
  | misdirected on answered => exact .misdirected _
  | @missing host on absent => exact .missing (call.isAbsolute_command host)
  | unprobed on wanted behaves => exact .unusable _
  | unusable on wanted behaves failed => exact .unusable _
  | unmade on failed => exact .unprepared (isWorkspaceFault_of_unmade failed)
  | unwritten on made failed => exact .unprepared (isWorkspaceFault_writeFault _)
  | unstarted on chosen made behaves => exact .notStarted _ _
  | unbuilt on chosen made behaves failed => exact .failed _ _
  | unproduced on chosen made absent => exact .unproduced _

end Call
end Build
end MockServer
