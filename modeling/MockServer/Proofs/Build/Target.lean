/-
The target of a build.

What is built is decided by the request and, for each half that it leaves open, by the host;
what builds it is decided by the host alone.  Main statements:

* `launches_of_course` — a build starts its toolchain for a probe, for the build itself, for both
  or not at all;
* `build_targets` — the name that is offered, the variables for the target and the toolchain that
  runs agree, and no request changes which toolchain runs.
-/
import MockServer.Proofs.Build.Isolation
import MockServer.Proofs.Build.Stages

namespace MockServer.Build

theorem executableSuffix_eq (system : OperatingSystem) :
    system.executableSuffix = if system.name = "windows" then ".exe" else "" := by
  cases system <;> rfl

/-! ### Starts of a toolchain -/

/-- A start of the toolchain of a host for a target. -/
structure StartsFor (setting : Setting) (resources : String) (host target : Platform)
    (l : Launch) : Prop where
  root : l.environment.get? "GOROOT" = some (Toolchain.rootFor setting resources host)
  program : l.program = Path.join (Path.join (Toolchain.rootFor setting resources host) "bin")
    ("go" ++ host.system.executableSuffix)
  system : l.environment.get? "GOOS" = some target.system.name
  architecture : l.environment.get? "GOARCH" = some target.architecture.name

namespace Call

variable {call : Call} {host : Platform}

/-- A start sees what its bundle sets, wherever the packages lie. -/
theorem get?_environment_launch {name : String} (arguments : List String) (directory : String)
    (h : name ≠ "PATH") {value : String} (hvalue : ∀ packages,
      ((call.toolchain host).own (call.request.target host) packages).get? name = some value) :
    (call.launch host arguments directory).environment.get? name = some value := by
  refine (Toolchain.get?_seen _ _ _ _ name).trans ?_
  rw [Toolchain.get?_environment_of_ne h, hvalue, Option.some_or]

theorem startsFor_launch (arguments : List String) (directory : String) :
    StartsFor call.setting call.builder.config.resourcesDirectory host (call.request.target host)
      (call.launch host arguments directory) where
  root := get?_environment_launch arguments directory (by decide) fun _ => rfl
  program := congrArg Toolchain.command (call.toolchain_eq host)
  system := get?_environment_launch arguments directory (by decide) fun _ => rfl
  architecture := get?_environment_launch arguments directory (by decide) fun _ => rfl

/-- A build starts its toolchain for a probe, for the build itself, for both or not at all. -/
theorem launches_of_course {result : Except Fault String} {tree : FileTree}
    {launches : List Launch} (h : call.Course result tree launches) :
    launches = [] ∨ ∃ host, call.host? = some host ∧ (launches = call.probes host ∨
      ∃ workspace output,
        launches = call.probes host ++ [call.buildLaunch host workspace output]) := by
  cases h with
  | unsupported _ | cancelled _ _ | misdirected _ _ _ | missing _ _ => exact .inl rfl
  | unusable aimed _ _ => exact .inr ⟨_, aimed.known, .inl rfl⟩
  | unmade equipped _ | unwritten equipped _ _ => exact .inr ⟨_, equipped.known, .inl rfl⟩
  | unbuilt prepared _ | unproduced prepared _ _ | produced prepared _ _ =>
    exact .inr ⟨_, prepared.known, .inr ⟨_, _, rfl⟩⟩

theorem launches_of_unknown {result : Except Fault String} {tree : FileTree}
    {launches : List Launch} (h : call.Course result tree launches)
    (unknown : call.host? = none) : launches = [] := by
  rcases launches_of_course h with hnil | ⟨host, known, -⟩
  · exact hnil
  · cases unknown.symm.trans known

variable (call) in
theorem offers_of_known (known : call.host? = some host) (told : Nat) :
    call.offers told = [⟨call.offered host, told⟩] := by
  rw [offers, known]

theorem startsFor_of_course {result : Except Fault String} {tree : FileTree}
    {launches : List Launch} (h : call.Course result tree launches)
    (known : call.host? = some host) :
    ∀ l ∈ launches, StartsFor call.setting call.builder.config.resourcesDirectory host
        (call.request.target host) l ∧
      (l.arguments = ["version"] ∨ ∃ output, l.arguments = buildArguments output) := by
  have hprobes : ∀ l ∈ call.probes host, StartsFor call.setting
      call.builder.config.resourcesDirectory host (call.request.target host) l ∧
        (l.arguments = ["version"] ∨ ∃ output, l.arguments = buildArguments output) := by
    intro l hl
    rw [probes] at hl
    split at hl
    · rw [List.mem_singleton.1 hl]
      exact ⟨startsFor_launch _ _, .inl rfl⟩
    · cases hl
  rcases launches_of_course h with rfl | ⟨host', known', hlaunches⟩
  · exact List.forall_mem_nil _
  obtain rfl : host' = host := Option.some.inj (known'.symm.trans known)
  rcases hlaunches with rfl | ⟨workspace, output, rfl⟩
  · exact hprobes
  · intro l hl
    rcases List.mem_append.1 hl with hl | hl
    · exact hprobes l hl
    · rw [List.mem_singleton.1 hl]
      exact ⟨startsFor_launch _ _, .inr ⟨output, rfl⟩⟩

/-- A build that succeeds has probed its toolchain where that is wanted, and has built. -/
theorem arguments_of_course_ok {output : String} {tree : FileTree} {launches : List Launch}
    (h : call.Course (.ok output) tree launches) : launches.map (·.arguments) =
      (if call.builder.config.probeToolchain then [["version"]] else []) ++
        [buildArguments output] := by
  cases h with
  | produced prepared _ _ =>
    rw [List.map_append, probes]
    split <;> rfl

end Call

/-! ### Builds -/

/-- What a build starts, it starts for its target with the toolchain of its host. -/
theorem startsFor_of_build (tools : Launcher) (setting : Setting) (builder : Builder)
    (session : Session) (request : TargetRequest) (prompt : Prompt) (m : Machine) {host : Platform}
    {launches : List Launch} (known : builder.host.platform? = some host)
    (h : ((builder.build tools setting session request prompt).run m).2.launches =
      m.launches ++ launches) :
    ∀ l ∈ launches, StartsFor setting builder.config.resourcesDirectory host
        (request.target host) l ∧
      (l.arguments = ["version"] ∨ ∃ output, l.arguments = buildArguments output) := by
  obtain ⟨result, tree', launches', events, hcourse, -, hrun⟩ :=
    exists_course_of_build tools setting builder session request prompt m
  rw [hrun] at h
  rw [← List.append_cancel_left h]
  exact Call.startsFor_of_course hcourse known

/-- **The parts of a build agree on its target.**  On a host for which no toolchain is bundled
nothing is offered and nothing is started.  Else each half of the target is the requested one, or
the host's where none is requested; the name that is offered ends as executables of the target's
system do; a build that gets as far as its toolchain starts it to probe where that is wanted, and
one that gets past its workspace starts it to build; every such start has the variables of the
target; and it runs the command of the host's bundle, whatever is requested. -/
theorem build_targets (tools : Launcher) (setting : Setting) (builder : Builder)
    (session : Session) (request : TargetRequest) (prompt : Prompt) (m : Machine) :
    let ((report, _), m') := (builder.build tools setting session request prompt).run m
    (builder.host.platform? = none → m'.offers = m.offers ∧ m'.launches = m.launches) ∧
    ∀ host, builder.host.platform? = some host →
      (builder.host.system, host.system) ∈ hostSystems ∧
      (builder.host.architecture, host.architecture) ∈ hostArchitectures ∧
      let target : Platform :=
        ⟨request.system.getD host.system, request.architecture.getD host.architecture⟩
      m'.offers = m.offers ++ [⟨Project.slug session.project.name ++
        (if target.system.name = "windows" then ".exe" else ""), m.log.length⟩] ∧
      ∃ launches, m'.launches = m.launches ++ launches ∧
        (∀ l ∈ launches, StartsFor setting builder.config.resourcesDirectory host target l ∧
          (l.arguments = ["version"] ∨ ∃ output, l.arguments = buildArguments output)) ∧
        (∃ versions builds, launches = versions ++ builds ∧
          (builder.call tools setting session request prompt m.tree).Starts versions builds) ∧
        (∀ product, report = .ok product → launches.map (·.arguments) =
          (if builder.config.probeToolchain then [["version"]] else []) ++
            [buildArguments product.path]) ∧
        ∀ tools' session' request' prompt' m₁ launches',
          ((builder.build tools' setting session' request' prompt').run m₁).2.launches =
            m₁.launches ++ launches' →
          ∀ l ∈ launches, ∀ l' ∈ launches', l'.program = l.program ∧
            l'.environment.get? "GOROOT" = l.environment.get? "GOROOT" := by
  obtain ⟨result, tree', launches, events, hcourse, -, hrun⟩ :=
    exists_course_of_build tools setting builder session request prompt m
  rw [hrun]
  let call := builder.call tools setting session request prompt m.tree
  refine ⟨fun unknown => ⟨?_, ?_⟩, fun host known => ?_⟩
  · exact (congrArg (m.offers ++ ·) (call.offers_of_unknown unknown _)).trans (List.append_nil _)
  · exact (congrArg (m.launches ++ ·) (Call.launches_of_unknown hcourse unknown)).trans
      (List.append_nil _)
  · obtain ⟨hsystem, harchitecture⟩ := platform?_eq_some_iff.1 known
    have hstarts := Call.startsFor_of_course hcourse known
    refine ⟨hsystem, harchitecture, ?_, launches, rfl, hstarts, Call.starts_of_course hcourse, ?_,
      ?_⟩
    · rw [← executableSuffix_eq]
      exact congrArg (m.offers ++ ·) (call.offers_of_known known m.log.length)
    · intro product hreport
      cases result with
      | error fault => cases hreport
      | ok output =>
        cases hreport
        exact Call.arguments_of_course_ok hcourse
    · intro tools' session' request' prompt' m₁ launches' hlaunches' l hl l' hl'
      obtain ⟨hstart, -⟩ := hstarts l hl
      obtain ⟨hstart', -⟩ :=
        startsFor_of_build tools' setting builder session' request' prompt' m₁ known hlaunches' l'
          hl'
      exact ⟨hstart'.program.trans hstart.program.symm, hstart'.root.trans hstart.root.symm⟩

end MockServer.Build
