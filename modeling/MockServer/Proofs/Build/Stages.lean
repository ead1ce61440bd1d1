/-
The order of the stages.

A build goes through its stages one after the other and reports the fault of the first one that
fails.  Main statements:

* `FailsFirst.unique` — at most one stage fails first;
* `failsFirst_of_course`, `passes_of_course` — a course ends at the first stage that fails;
* `starts_of_course` — the tools that a course starts;
* `build_first_fault` — what a build reports, and which tools it starts.
-/
import MockServer.Proofs.Build.Faults

namespace MockServer.Build

/-! ### The first fault -/

/-- The place of a stage in the order in which a build goes through them. -/
def Stage.rank : Stage → Nat
  | .host => 0
  | .answer => 1
  | .output => 2
  | .toolchain => 3
  | .probe => 4
  | .workspace => 5
  | .compilation => 6
  | .product => 7

theorem Stage.rank_injective {a b : Stage} (h : a.rank = b.rank) : a = b := by
  cases a <;> cases b <;> first | rfl | cases h

namespace Call

variable (call : Call)

/-- A stage fails, and no stage before it does. -/
structure FailsFirst (stage : Stage) (fault : Fault) : Prop where
  fails : call.fault stage = some fault
  first : ∀ earlier : Stage, earlier.rank < stage.rank → call.fault earlier = none

/-- A stage is passed: neither it nor a stage before it fails. -/
def Passes (stage : Stage) : Prop :=
  ∀ earlier : Stage, earlier.rank ≤ stage.rank → call.fault earlier = none

variable {call}

/-- At most one stage fails first. -/
theorem FailsFirst.unique {stage other : Stage} {fault fault' : Fault}
    (h : call.FailsFirst stage fault) (h' : call.FailsFirst other fault') :
    stage = other ∧ fault = fault' := by
  -- If one of the two came before the other, it could not fail.
  have hrank : stage.rank = other.rank := by
    rcases Nat.lt_trichotomy stage.rank other.rank with hlt | heq | hgt
    · have := h.fails.symm.trans (h'.first stage hlt)
      cases this
    · exact heq
    · have := h'.fails.symm.trans (h.first other hgt)
      cases this
  cases Stage.rank_injective hrank
  exact ⟨rfl, Option.some.inj (h.fails.symm.trans h'.fails)⟩

theorem FailsFirst.not_passes {stage other : Stage} {fault : Fault}
    (h : call.FailsFirst stage fault) (hrank : stage.rank ≤ other.rank) : ¬ call.Passes other := by
  intro hpasses
  cases h.fails.symm.trans (hpasses stage hrank)

theorem Passes.next {stage next : Stage} (h : call.Passes stage)
    (hnext : next.rank = stage.rank + 1) (hfault : call.fault next = none) : call.Passes next := by
  intro earlier hrank
  rcases Nat.lt_or_eq_of_le hrank with hlt | heq
  · exact h earlier (by omega)
  · cases Stage.rank_injective heq
    exact hfault

theorem Passes.failsFirst_next {stage next : Stage} {fault : Fault} (h : call.Passes stage)
    (hnext : next.rank = stage.rank + 1) (hfault : call.fault next = some fault) :
    call.FailsFirst next fault :=
  ⟨hfault, fun earlier hrank => h earlier (by omega)⟩

/-! ### Courses -/

theorem output?_of_aimed {host : Platform} {output : String} (aimed : call.Aimed host output) :
    call.output? = some output := by
  rw [output?, aimed.known]
  exact aimed.chosen

section

variable {host : Platform} {output : String} {workspace : Workspace}

theorem failsFirst_unsupported (unknown : call.host? = none) :
    call.FailsFirst .host (.unsupportedHost call.builder.host) :=
  ⟨if_pos unknown, fun earlier hrank => absurd hrank (Nat.not_lt_zero earlier.rank)⟩

theorem passes_of_known (known : call.host? = some host) : call.Passes .host := by
  intro earlier hrank
  have hhost : earlier.rank = Stage.host.rank := Nat.le_zero.1 hrank
  cases Stage.rank_injective hhost
  simp only [fault, known, reduceCtorEq, if_false]

theorem passes_of_answered {path : String} (known : call.host? = some host)
    (answered : call.answer? host = some path) : call.Passes .answer :=
  (passes_of_known known).next rfl (by
    simp only [fault, known, answered, Option.bind_some, reduceCtorEq, if_false])

theorem passes_of_aimed (aimed : call.Aimed host output) : call.Passes .output := by
  obtain ⟨path, hanswer, habsolute⟩ := Option.bind_eq_some_iff.1 aimed.chosen
  refine (passes_of_answered aimed.known hanswer).next rfl ?_
  simp only [fault, aimed.known, hanswer, habsolute, Option.bind_some, reduceCtorEq, if_false]

theorem passes_of_located (aimed : call.Aimed host output) (located : call.isLocated host = true) :
    call.Passes .toolchain := by
  refine (passes_of_aimed aimed).next rfl ?_
  simp only [fault, aimed.known, located, Option.bind_some, if_true]

theorem passes_of_equipped (equipped : call.Equipped host output) : call.Passes .probe := by
  refine (passes_of_located equipped.toAimed equipped.located).next rfl ?_
  simp only [fault, equipped.known, equipped.usable, Option.bind_some]

theorem passes_of_prepared (prepared : call.Prepared host output workspace) :
    call.Passes .workspace := by
  refine (passes_of_equipped prepared.toEquipped).next rfl ?_
  simp only [fault, prepared.known, Option.bind_some, workspaceFault?, prepared.made,
    prepared.written]

theorem fault_compilation (prepared : call.Prepared host output workspace) :
    call.fault .compilation = call.buildFault? host workspace output := by
  simp only [fault, prepared.known, output?_of_aimed prepared.toAimed, prepared.made,
    Except.toOption, Option.bind_some]

theorem fault_product (prepared : call.Prepared host output workspace) :
    call.fault .product =
      if call.isProduced host workspace output then none else some (notProduced output) := by
  simp only [fault, prepared.known, output?_of_aimed prepared.toAimed, prepared.made,
    Except.toOption, Option.bind_some]

theorem failsFirst_cancelled (known : call.host? = some host)
    (declined : call.answer? host = none) : call.FailsFirst .answer .cancelled := by
  refine (passes_of_known known).failsFirst_next rfl ?_
  simp only [fault, known, declined, Option.bind_some, if_true]

theorem failsFirst_misdirected {path : String} (known : call.host? = some host)
    (answered : call.answer? host = some path)
    (relative : Path.absolute? call.setting.directoryPath path = none) :
    call.FailsFirst .output (invalidOutput path) := by
  refine (passes_of_answered known answered).failsFirst_next rfl ?_
  simp only [fault, known, answered, relative, Option.bind_some, if_true]

theorem failsFirst_missing (aimed : call.Aimed host output)
    (absent : call.isLocated host = false) :
    call.FailsFirst .toolchain (.noToolchain (call.command host)) := by
  refine (passes_of_aimed aimed).failsFirst_next rfl ?_
  simp only [fault, aimed.known, absent, Option.bind_some, Bool.false_eq_true, if_false]

theorem failsFirst_unusable {fault : Fault} (aimed : call.Aimed host output)
    (located : call.isLocated host = true) (failed : call.versionFault? host = some fault) :
    call.FailsFirst .probe fault := by
  refine (passes_of_located aimed located).failsFirst_next rfl ?_
  simp only [Call.fault, aimed.known, failed, Option.bind_some]

theorem failsFirst_unprepared {fault : Fault} (equipped : call.Equipped host output)
    (failed : call.workspaceFault? host = some fault) : call.FailsFirst .workspace fault := by
  refine (passes_of_equipped equipped).failsFirst_next rfl ?_
  simp only [Call.fault, equipped.known, failed, Option.bind_some]

theorem workspaceFault?_of_unmade {fault : Fault} (failed : (call.made host).1 = .error fault) :
    call.workspaceFault? host = some fault := by
  rw [workspaceFault?, failed]

theorem workspaceFault?_of_unwritten {fault : Program.WriteFault}
    (made : (call.made host).1 = .ok workspace)
    (failed : (call.written host workspace).1 = .error fault) :
    call.workspaceFault? host = some (.workspace fault.message) := by
  simp only [workspaceFault?, made, failed]

theorem failsFirst_unbuilt {fault : Fault} (prepared : call.Prepared host output workspace)
    (failed : call.buildFault? host workspace output = some fault) :
    call.FailsFirst .compilation fault := by
  refine (passes_of_prepared prepared).failsFirst_next rfl ?_
  rw [fault_compilation prepared, failed]

theorem passes_of_built (prepared : call.Prepared host output workspace)
    (built : call.buildFault? host workspace output = none) : call.Passes .compilation := by
  refine (passes_of_prepared prepared).next rfl ?_
  rw [fault_compilation prepared, built]

theorem failsFirst_unproduced (prepared : call.Prepared host output workspace)
    (built : call.buildFault? host workspace output = none)
    (absent : call.isProduced host workspace output = false) :
    call.FailsFirst .product (notProduced output) := by
  refine (passes_of_built prepared built).failsFirst_next rfl ?_
  rw [fault_product prepared, absent, if_neg Bool.false_ne_true]

end

/-- A course that ends in a fault ends at the first stage that fails. -/
theorem failsFirst_of_course {fault : Fault} {tree : FileTree} {launches : List Launch}
    (h : call.Course (.error fault) tree launches) : ∃ stage, call.FailsFirst stage fault := by
  cases h with
  | unsupported unknown => exact ⟨_, failsFirst_unsupported unknown⟩
  | cancelled known declined => exact ⟨_, failsFirst_cancelled known declined⟩
  | misdirected known answered relative =>
    exact ⟨_, failsFirst_misdirected known answered relative⟩
  | missing aimed absent => exact ⟨_, failsFirst_missing aimed absent⟩
  | unusable aimed located failed => exact ⟨_, failsFirst_unusable aimed located failed⟩
  | unmade equipped failed =>
    exact ⟨_, failsFirst_unprepared equipped (workspaceFault?_of_unmade failed)⟩
  | unwritten equipped made failed =>
    exact ⟨_, failsFirst_unprepared equipped (workspaceFault?_of_unwritten made failed)⟩
  | unbuilt prepared failed => exact ⟨_, failsFirst_unbuilt prepared failed⟩
  | unproduced prepared built absent => exact ⟨_, failsFirst_unproduced prepared built absent⟩

/-- A course that does not end in a fault passes every stage. -/
theorem passes_of_course {output : String} {tree : FileTree} {launches : List Launch}
    (h : call.Course (.ok output) tree launches) :
    call.output? = some output ∧ ∀ stage, call.fault stage = none := by
  cases h with
  | produced prepared built present =>
    refine ⟨output?_of_aimed prepared.toAimed, ?_⟩
    have hproduct : call.Passes .product := by
      refine (passes_of_built prepared built).next rfl ?_
      rw [fault_product prepared, present, if_pos rfl]
    intro stage
    refine hproduct stage ?_
    cases stage <;> decide

/-! ### Tools -/

variable (call) in
/-- The tools that a build starts are the toolchain alone.  It is asked for its version once
where that is wanted and the toolchain is there, and behind that it builds once where a
workspace is ready. -/
structure Starts (versions builds : List Launch) : Prop where
  program : ∀ l ∈ versions ++ builds, ∃ host, call.HasHost host ∧
    call.isLocated host = true ∧ l.program = call.command host
  asked : call.builder.config.probeToolchain = true → call.Passes .toolchain →
    versions.map (·.arguments) = [["version"]]
  unasked : call.builder.config.probeToolchain = false ∨ ¬ call.Passes .toolchain → versions = []
  built : call.Passes .workspace → ∃ output, call.output? = some output ∧
    builds.map (·.arguments) = [["build", "-o", output, "."]]
  unbuilt : ¬ call.Passes .workspace → builds = []

theorem starts_nil {stage : Stage} {fault : Fault} (h : call.FailsFirst stage fault)
    (hrank : stage.rank ≤ Stage.toolchain.rank) : call.Starts [] [] where
  program := List.forall_mem_nil _
  asked := fun _ hpasses => absurd hpasses (h.not_passes hrank)
  unasked := fun _ => rfl
  built := fun hpasses => absurd hpasses (h.not_passes (Nat.le_trans hrank (by decide)))
  unbuilt := fun _ => rfl

theorem starts_probes {host : Platform} {output : String} {builds : List Launch}
    (aimed : call.Aimed host output) (located : call.isLocated host = true)
    (program : ∀ l ∈ builds, l.program = call.command host)
    (built : call.Passes .workspace → builds.map (·.arguments) = [["build", "-o", output, "."]])
    (unbuilt : ¬ call.Passes .workspace → builds = []) :
    call.Starts (call.probes host) builds where
  program := by
    intro l hl
    refine ⟨host, host?_eq_some_iff.1 aimed.known, located, ?_⟩
    rcases List.mem_append.1 hl with hl | hl
    · rw [probes] at hl
      split at hl
      · cases List.mem_singleton.1 hl
        rfl
      · cases hl
    · exact program l hl
  asked := fun hwanted _ => by
    rw [probes, if_pos hwanted]
    rfl
  unasked := fun h => by
    rcases h with hwanted | hpasses
    · rw [probes, hwanted, if_neg Bool.false_ne_true]
    · exact absurd (passes_of_located aimed located) hpasses
  built := fun hpasses => ⟨output, output?_of_aimed aimed, built hpasses⟩
  unbuilt := unbuilt

/-- Before there is a workspace nothing is built. -/
theorem starts_unprepared {host : Platform} {output : String} {stage : Stage} {fault : Fault}
    (aimed : call.Aimed host output) (located : call.isLocated host = true)
    (h : call.FailsFirst stage fault) (hrank : stage.rank ≤ Stage.workspace.rank) :
    call.Starts (call.probes host) [] :=
  starts_probes aimed located (List.forall_mem_nil _)
    (fun hpasses => absurd hpasses (h.not_passes hrank)) (fun _ => rfl)

theorem starts_prepared {host : Platform} {output : String} {workspace : Workspace}
    (prepared : call.Prepared host output workspace) :
    call.Starts (call.probes host) [call.buildLaunch host workspace output] := by
  refine starts_probes prepared.toAimed prepared.located ?_ (fun _ => rfl) ?_
  · intro l hl
    cases List.mem_singleton.1 hl
    rfl
  · exact fun hpasses => absurd (passes_of_prepared prepared) hpasses

theorem starts_of_course {result : Except Fault String} {tree : FileTree} {launches : List Launch}
    (h : call.Course result tree launches) :
    ∃ versions builds, launches = versions ++ builds ∧ call.Starts versions builds := by
  cases h with
  | unsupported unknown =>
    exact ⟨[], [], rfl, starts_nil (failsFirst_unsupported unknown) (by decide)⟩
  | cancelled known declined =>
    exact ⟨[], [], rfl, starts_nil (failsFirst_cancelled known declined) (by decide)⟩
  | misdirected known answered relative =>
    exact ⟨[], [], rfl, starts_nil (failsFirst_misdirected known answered relative) (by decide)⟩
  | missing aimed absent =>
    exact ⟨[], [], rfl, starts_nil (failsFirst_missing aimed absent) (by decide)⟩
  | unusable aimed located failed =>
    exact ⟨_, [], (List.append_nil _).symm,
      starts_unprepared aimed located (failsFirst_unusable aimed located failed) (by decide)⟩
  | unmade equipped failed =>
    have hfirst := failsFirst_unprepared equipped (workspaceFault?_of_unmade failed)
    exact ⟨_, [], (List.append_nil _).symm,
      starts_unprepared equipped.toAimed equipped.located hfirst (by decide)⟩
  | unwritten equipped made failed =>
    have hfirst := failsFirst_unprepared equipped (workspaceFault?_of_unwritten made failed)
    exact ⟨_, [], (List.append_nil _).symm,
      starts_unprepared equipped.toAimed equipped.located hfirst (by decide)⟩
  | unbuilt prepared _ => exact ⟨_, _, rfl, starts_prepared prepared⟩
  | unproduced prepared _ _ => exact ⟨_, _, rfl, starts_prepared prepared⟩
  | produced prepared _ _ => exact ⟨_, _, rfl, starts_prepared prepared⟩

variable (call) in
theorem offers_of_unknown (unknown : call.host? = none) (told : Nat) : call.offers told = [] := by
  rw [offers, unknown]

theorem offers_of_failsFirst {fault : Fault} (h : call.FailsFirst .host fault) (told : Nat) :
    call.offers told = [] := by
  obtain ⟨unknown, -⟩ := Option.ite_none_right_eq_some.1 h.fails
  exact call.offers_of_unknown unknown told

end Call

/-! ### Reports -/

section

variable {call : Call} {result : Except Fault String} {tree : FileTree} {launches : List Launch}

theorem reportOf_eq_error_iff (h : call.Course result tree launches) (fault : Fault) :
    Builder.reportOf result = .error fault ↔ ∃ stage, call.FailsFirst stage fault := by
  cases result with
  | error f =>
    obtain ⟨stage, hstage⟩ := Call.failsFirst_of_course h
    constructor
    · intro hreport
      cases hreport
      exact ⟨stage, hstage⟩
    · rintro ⟨other, hother⟩
      rw [(hother.unique hstage).2]
      rfl
  | ok output =>
    obtain ⟨-, hpasses⟩ := Call.passes_of_course h
    constructor
    · intro hreport
      cases hreport
    · rintro ⟨stage, hstage⟩
      cases hstage.fails.symm.trans (hpasses stage)

theorem reportOf_eq_ok_iff (h : call.Course result tree launches) (product : Product) :
    Builder.reportOf result = .ok product ↔ (∀ stage, call.fault stage = none) ∧
      call.output? = some product.path ∧ product.port = Program.defaultPort := by
  cases result with
  | error f =>
    obtain ⟨stage, hstage⟩ := Call.failsFirst_of_course h
    constructor
    · intro hreport
      cases hreport
    · rintro ⟨hpasses, -⟩
      cases hstage.fails.symm.trans (hpasses stage)
  | ok output =>
    obtain ⟨houtput, hpasses⟩ := Call.passes_of_course h
    constructor
    · intro hreport
      cases hreport
      exact ⟨hpasses, houtput, rfl⟩
    · obtain ⟨path, port⟩ := product
      rintro ⟨-, hpath, rfl⟩
      cases houtput.symm.trans hpath
      rfl

end

/-- **What a build reports.**  Its report is the fault of the first stage that fails, whatever
the stages behind it would do, and a success where no stage fails; then it names the absolute
path that was chosen.  Each stage fails in its own ways alone: a tool fails a stage where it is
not started or does not end with the code 0.  The only tool that a build ever starts is the
command in the bundle of the host, at an absolute path under the directory with all bundles. -/
theorem build_first_fault (tools : Launcher) (setting : Setting) (builder : Builder)
    (session : Session) (request : TargetRequest) (prompt : Prompt) (m : Machine) :
    let call := builder.call tools setting session request prompt m.tree
    let ((report, _), m') := (builder.build tools setting session request prompt).run m
    (∀ fault, report = .error fault ↔ ∃ stage, call.FailsFirst stage fault) ∧
    (∀ product, report = .ok product ↔ (∀ stage, call.fault stage = none) ∧
      call.output? = some product.path ∧ product.port = Program.defaultPort) ∧
    (∀ stage fault, call.fault stage = some fault ↔ call.Fails stage fault) ∧
    (∀ output, call.output? = some output → Path.isAbsolute output = true) ∧
    (∀ fault, call.FailsFirst .host fault → m'.offers = m.offers) ∧
    (∀ host, Path.absolute? setting.directoryPath (Path.join
          (Path.join builder.config.resourcesDirectory "go")
          (host.system.name ++ "-" ++ host.architecture.name)) = some (call.root host) ∧
      Path.isAbsolute (call.command host) = true) ∧
    ∃ versions builds, m'.launches = m.launches ++ (versions ++ builds) ∧
      call.Starts versions builds := by
  intro call
  obtain ⟨result, tree', launches, events, hcourse, -, hrun⟩ :=
    exists_course_of_build tools setting builder session request prompt m
  rw [hrun]
  refine ⟨?_, ?_, fun _ _ => Call.fault_eq_some_iff, fun _ => Call.isAbsolute_of_output?, ?_,
    fun host => ⟨absolute?_bundle setting _ host, call.isAbsolute_command host⟩, ?_⟩
  · exact reportOf_eq_error_iff hcourse
  · exact reportOf_eq_ok_iff hcourse
  · intro fault hfails
    show m.offers ++ call.offers m.log.length = m.offers
    rw [Call.offers_of_failsFirst hfails, List.append_nil]
  · obtain ⟨versions, builds, hlaunches, hstarts⟩ := Call.starts_of_course hcourse
    exact ⟨versions, builds, congrArg (m.launches ++ ·) hlaunches, hstarts⟩

end MockServer.Build
