/-
The course of a build.

A build that is started on some files is a `Call`.  What its stages are given and what
they make of it are plain values of the call: the tools that are started, the files that
each of them finds, and the faults that follow from its behaviour.  A `Course` is one way
for a build to go, with its result, the files that it leaves and the tools that it
started: one for each stage that may fail, and one for success.  Main statements:

* `comes_located`, `comes_probe`, `comes_generate`, … — what each stage comes to;
* `comes_produce` — the stages behind the choice of the output;
* `exists_course` — every build takes one of the courses, and nothing that it tells on the
  way tells its end;
* `exists_course_of_build` — the end is told once, as the last event.
-/
import MockServer.Build.Builder
import MockServer.Proofs.Build.Workspace
import MockServer.Proofs.Program.Files

namespace MockServer.Build

open MockServer.Task

/-! ### Quiet events -/

/-- The messages that tell the end of a build. -/
def endings : List String :=
  ["Build finished", "Build cancelled", "Build failed"]

/-- Does an event tell the end of a build? -/
def endsBuild (event : Log.Event) : Bool :=
  endings.contains event.message

/-- An event that does not tell the end of a build. -/
def IsQuiet (event : Log.Event) : Prop :=
  endsBuild event = false

theorem isQuiet_heard (behaviour : Behaviour) : ∀ e ∈ Tool.heard behaviour, IsQuiet e := by
  intro e he
  cases behaviour with
  | notStarted reason => cases he
  | ended pieces code =>
    obtain ⟨piece, -, rfl⟩ := List.mem_map.1 he
    rfl

theorem isQuiet_notice? (table : RouteTable) (endpoint : Endpoint) :
    ∀ e ∈ table.notice? endpoint, IsQuiet e := by
  intro e he
  rw [RouteTable.notice?] at he
  split at he
  · cases he
    rfl
  · obtain ⟨replaced, -, rfl⟩ := Option.map_eq_some_iff.1 he
    rfl

theorem isQuiet_noticesFrom (table : RouteTable) (endpoints : List Endpoint) :
    ∀ e ∈ table.noticesFrom endpoints, IsQuiet e := by
  induction endpoints generalizing table with
  | nil => exact List.forall_mem_nil _
  | cons endpoint rest ih =>
    intro e he
    rcases List.mem_append.1 he with he | he
    · exact isQuiet_notice? table endpoint e (Option.mem_toList.1 he)
    · exact ih _ e he

/-! ### Stages -/

/-- The files with the one at a path made executable, or as they are where that fails. -/
def madeExecutable (directory : Place) (path : String) (tree : FileTree) : FileTree :=
  match tree.makeExecutable directory path with
  | .ok marked => marked
  | .error _ => tree

/-- Success, or the fault that there is. -/
def settled : Option Fault → Except Fault Unit
  | none => .ok ()
  | some fault => .error fault

/-- What a tool wrote on its error stream, as a text. -/
def errorText (pieces : List Piece) : String :=
  Text.decodeLossy (pieces.flatMap fun piece => if piece.stream = .errors then piece.bytes else [])

/-- The fault of a toolchain that was asked for its version: it was not started, or it ended
otherwise than with the code 0. -/
def probeFault? : Behaviour → Option Fault
  | .notStarted reason => some (.unusableToolchain reason)
  | .ended pieces code =>
    if code = some 0 then none
    else some (.unusableToolchain (Fault.failedMessage code (errorText pieces)))

/-- The fault of a toolchain that was to build: it was not started, or it ended otherwise than
with the code 0. -/
def compileFault? (command : String) : Behaviour → Option Fault
  | .notStarted reason => some (.notStarted command reason)
  | .ended pieces code =>
    if code = some 0 then none else some (.failed code (errorText pieces))

/-- The fault of a path that cannot be made absolute. -/
def invalidOutput (path : String) : Fault :=
  .workspace ("invalid output path " ++ path ++ ": cannot make an empty path absolute")

/-- The fault of a build that left no executable. -/
def notProduced (output : String) : Fault :=
  .failed (some 0) ("toolchain reported success but " ++ output ++ " was not produced")

theorem errorText_eq (pieces : List Piece) :
    errorText pieces = Text.decodeLossy (collected .errors pieces) := by
  rw [errorText, collected]
  congr 1
  induction pieces with
  | nil => rfl
  | cons piece rest ih =>
    rw [List.flatMap_cons, ih]
    by_cases h : piece.stream = .errors
    · simp [h]
    · simp [h]

/-- The outcome of a tool that ended. -/
theorem ofBehaviour_ended (pieces : List Piece) (code : Option Int) :
    Outcome.ofBehaviour (.ended pieces code) =
      if code = some 0 then .succeeded (Text.decodeLossy (collected .output pieces))
      else .exited code (errorText pieces) := by
  rw [errorText_eq]
  rfl

section

variable {tools : Launcher} {setting : Setting} {config : Config} {tree : FileTree}

theorem comes_run (tools : Launcher) (l : Launch) (tree : FileTree) :
    Comes IsQuiet (Tool.run tools l : Task Fault Outcome) tree (.ok (.ofBehaviour (tools l tree).1))
      (tools l tree).2 [l] := by
  refine comes_bind (comes_tell tree rfl) ?_
  refine comes_bind_ok (comes_launch tools l tree) ?_
  exact comes_bind (comes_tellAll _ (isQuiet_heard _)) (comes_pure _ _)

theorem comes_ensureExecutable (toolchain : Toolchain) :
    Comes IsQuiet (toolchain.ensureExecutable setting : Task Fault Unit) tree (.ok ())
      (madeExecutable setting.directory toolchain.command tree) [] := by
  refine comes_tree_bind ?_
  rw [madeExecutable]
  cases tree.makeExecutable setting.directory toolchain.command with
  | ok marked => exact comes_setTree tree marked
  | error fault => exact comes_tell tree rfl

theorem comes_probe (toolchain : Toolchain) (environment : Environment) :
    let l := Tool.launchOf setting toolchain.command ["version"] toolchain.root environment
    Comes IsQuiet (probe tools setting toolchain environment) tree
      (settled (probeFault? (tools l tree).1)) (tools l tree).2 [l] := by
  intro l
  refine comes_bind_ok (comes_run tools l tree) ?_
  cases (tools l tree).1 with
  | notStarted reason => exact comes_throw _ _
  | ended pieces code =>
    rw [ofBehaviour_ended, probeFault?]
    by_cases hcode : code = some 0
    · rw [if_pos hcode, if_pos hcode]
      exact comes_tell _ rfl
    · rw [if_neg hcode, if_neg hcode]
      exact comes_throw _ _

/-- The program of a project. -/
def programOf (project : Project) : Program :=
  .ofTable (.ofRecords project.endpoints) project.name

theorem comes_generate (project : Project) (workspace : Workspace) :
    Comes IsQuiet (generate setting project workspace) tree
      (((Program.filesOn setting.directory (programOf project) workspace.path false tree).1.mapError
        fun fault => Fault.workspace fault.message).map fun _ => .ofRecords project.endpoints)
      (Program.filesOn setting.directory (programOf project) workspace.path false tree).2 [] := by
  have hsynthesize : Comes IsQuiet (project.synthesize : Task Fault _) tree
      (.ok (.ofRecords project.endpoints, programOf project)) tree [] := by
    have htable : Comes IsQuiet (project.routeTable : Task Fault _) tree
        (.ok (.ofRecords project.endpoints)) tree [] :=
      comes_bind (comes_tellAll tree (isQuiet_noticesFrom _ _)) (comes_pure tree _)
    exact comes_bind htable (comes_bind (comes_tell tree rfl) (comes_pure tree _))
  refine comes_bind hsynthesize ?_
  have hwrite : Comes IsQuiet
      (ExceptT.adapt (fun fault => Fault.workspace fault.message)
        ((programOf project).write setting workspace.path false)) tree _ _ [] :=
    comes_adapt _ (Program.comes_write _ _ _ _ fun _ _ => rfl)
  cases hfiles : (Program.filesOn setting.directory (programOf project) workspace.path false tree).1 with
  | ok _ =>
    rw [hfiles] at hwrite
    exact comes_bind hwrite (comes_pure _ _)
  | error fault =>
    rw [hfiles] at hwrite
    exact comes_bind_error hwrite

theorem comes_compile (toolchain : Toolchain) (environment : Environment) (workspace : Workspace)
    (output : String) :
    let l := Tool.launchOf setting toolchain.command (buildArguments output) workspace.path
      environment
    Comes IsQuiet (compile tools setting toolchain environment workspace output) tree
      (settled (compileFault? toolchain.command (tools l tree).1)) (tools l tree).2 [l] := by
  intro l
  refine comes_bind_ok (comes_run tools l tree) ?_
  cases (tools l tree).1 with
  | notStarted reason => exact comes_throw _ _
  | ended pieces code =>
    rw [ofBehaviour_ended, compileFault?]
    by_cases hcode : code = some 0
    · rw [if_pos hcode, if_pos hcode]
      exact comes_pure _ _
    · rw [if_neg hcode, if_neg hcode]
      exact comes_throw _ _

theorem comes_finish_ok {output : String} (h : tree.isFile setting.directory output = true) :
    Comes IsQuiet (finish setting output) tree (.ok ())
      (madeExecutable setting.directory output tree) [] := by
  refine comes_tree_bind ?_
  rw [if_pos h, madeExecutable]
  cases tree.makeExecutable setting.directory output with
  | ok marked => exact comes_setTree tree marked
  | error fault => exact comes_tell tree rfl

theorem comes_finish_error {output : String} (h : tree.isFile setting.directory output = false) :
    Comes IsQuiet (finish setting output) tree (.error (notProduced output)) tree [] := by
  refine comes_tree_bind ?_
  rw [if_neg (by rw [h]; exact Bool.false_ne_true)]
  exact comes_throw tree _

end

/-- The output of an answer. -/
def outputOf (setting : Setting) (answer? : Option String) : Except Fault String :=
  match answer? with
  | none => .error .cancelled
  | some path =>
    match Path.absolute? setting.directoryPath path with
    | some output => .ok output
    | none => .error (invalidOutput path)

theorem run_chooseOutput (setting : Setting) (prompt : Prompt) (name : String) (m : Machine) :
    (chooseOutput setting prompt name).run.run m =
      (outputOf setting (prompt name).destination,
        { m with log := m.log ++ (prompt name).events
                 offers := m.offers ++ [⟨name, m.log.length⟩] }) := by
  have hask : (Task.ask prompt name : Task Fault (Option String)).run.run m =
      (.ok (prompt name).destination,
        { m with log := m.log ++ (prompt name).events
                 offers := m.offers ++ [⟨name, m.log.length⟩] }) := rfl
  rw [chooseOutput, run_bind, hask]
  dsimp only
  cases (prompt name).destination with
  | none => rfl
  | some path =>
    dsimp only [outputOf]
    cases Path.absolute? setting.directoryPath path <;> rfl

/-! ### Calls -/

/-- All that a build depends on. -/
structure Call where
  tools : Launcher
  setting : Setting
  builder : Builder
  project : Project
  request : TargetRequest
  prompt : Prompt
  tree : FileTree

namespace Call

variable (call : Call)

/-- The build itself. -/
def attempt : Task Fault String :=
  call.builder.attempt call.tools call.setting call.project call.request call.prompt

/-- The platform of the host, where it is known. -/
def host? : Option Platform :=
  call.builder.host.platform?

section

variable (host : Platform)

/-- The name that the user is offered. -/
def offered : String :=
  offeredName call.project (call.request.target host)

/-- The user's answer. -/
def answer? : Option String :=
  (call.prompt (call.offered host)).destination

/-- Where the bundle for the host has to be. -/
def root : String :=
  Toolchain.rootFor call.setting call.builder.config.resourcesDirectory host

/-- Where the command of the bundle has to be. -/
def command : String :=
  Path.join (Path.join (call.root host) "bin") (if host.system = .windows then "go.exe" else "go")

/-- The toolchain of the host. -/
def toolchain : Toolchain :=
  ⟨call.root host, call.command host⟩

/-- Is there a file where the toolchain's command has to be? -/
def isLocated : Bool :=
  call.tree.isFile call.setting.directory (call.command host)

/-- The files with the toolchain's command made executable. -/
def marked : FileTree :=
  madeExecutable call.setting.directory (call.command host) call.tree

/-- The variables for the toolchain. -/
def environment : Environment :=
  (call.toolchain host).environment call.setting (call.request.target host)
    call.builder.config.dataDirectory

/-- A start of the toolchain's command. -/
def launch (arguments : List String) (directory : String) : Launch where
  program := call.command host
  arguments := arguments
  origin := call.setting.directory
  directory := directory
  environment := call.setting.environment.layered (call.environment host)

/-- The start that asks for the version. -/
def versionLaunch : Launch :=
  call.launch host ["version"] (call.root host)

/-- How the toolchain behaves that is asked for its version, and what it leaves. -/
def version : Behaviour × FileTree :=
  call.tools (call.versionLaunch host) (call.marked host)

/-- The fault of the probe, where one is wanted. -/
def versionFault? : Option Fault :=
  if call.builder.config.probeToolchain then probeFault? (call.version host).1 else none

/-- The files after the probe. -/
def probed : FileTree :=
  if call.builder.config.probeToolchain then (call.version host).2 else call.marked host

/-- The tools started by the probe. -/
def probes : List Launch :=
  if call.builder.config.probeToolchain then [call.versionLaunch host] else []

/-- The workspace, and the files with it. -/
def made : Except Fault Workspace × FileTree :=
  Workspace.makeOn call.setting call.builder.config (call.probed host)

variable (workspace : Workspace) (output : String)

/-- What the writing of the program comes to, and the files with it. -/
def written : Except Program.WriteFault Unit × FileTree :=
  Program.filesOn call.setting.directory (programOf call.project) workspace.path false
    (call.made host).2

/-- The start that builds. -/
def buildLaunch : Launch :=
  call.launch host ["build", "-o", output, "."] workspace.path

/-- How the toolchain behaves that is to build, and what it leaves. -/
def built : Behaviour × FileTree :=
  call.tools (call.buildLaunch host workspace output) (call.written host workspace).2

/-- The fault of the toolchain that was to build. -/
def buildFault? : Option Fault :=
  compileFault? (call.command host) (call.built host workspace output).1

/-- Is there a file where the executable has to be? -/
def isProduced : Bool :=
  (call.built host workspace output).2.isFile call.setting.directory output

end

/-! ### Courses -/

/-- The host is known and the output chosen. -/
structure Aimed (host : Platform) (output : String) : Prop where
  known : call.host? = some host
  chosen : (call.answer? host).bind (Path.absolute? call.setting.directoryPath) = some output

/-- Moreover the toolchain was found and can be used. -/
structure Equipped (host : Platform) (output : String) : Prop extends call.Aimed host output where
  located : call.isLocated host = true
  usable : call.versionFault? host = none

/-- Moreover there is a workspace with the program in it. -/
structure Prepared (host : Platform) (output : String) (workspace : Workspace) : Prop
    extends call.Equipped host output where
  made : (call.made host).1 = .ok workspace
  written : (call.written host workspace).1 = .ok ()

/-- One way for a build to go: its result, the files that it leaves, and the tools that it
started.  Each way but the last ends at the first stage that fails. -/
inductive Course : Except Fault String → FileTree → List Launch → Prop where
  | unsupported (unknown : call.host? = none) :
      Course (.error (.unsupportedHost call.builder.host)) call.tree []
  | cancelled {host : Platform} (known : call.host? = some host)
      (declined : call.answer? host = none) : Course (.error .cancelled) call.tree []
  | misdirected {host : Platform} {path : String} (known : call.host? = some host)
      (answered : call.answer? host = some path)
      (relative : Path.absolute? call.setting.directoryPath path = none) :
      Course (.error (invalidOutput path)) call.tree []
  | missing {host : Platform} {output : String} (aimed : call.Aimed host output)
      (absent : call.isLocated host = false) :
      Course (.error (.noToolchain (call.command host))) call.tree []
  | unusable {host : Platform} {output : String} {fault : Fault} (aimed : call.Aimed host output)
      (located : call.isLocated host = true) (failed : call.versionFault? host = some fault) :
      Course (.error fault) (call.probed host) (call.probes host)
  | unmade {host : Platform} {output : String} {fault : Fault}
      (equipped : call.Equipped host output) (failed : (call.made host).1 = .error fault) :
      Course (.error fault) (call.made host).2 (call.probes host)
  | unwritten {host : Platform} {output : String} {workspace : Workspace}
      {fault : Program.WriteFault} (equipped : call.Equipped host output)
      (made : (call.made host).1 = .ok workspace)
      (failed : (call.written host workspace).1 = .error fault) :
      Course (.error (.workspace fault.message))
        ((call.written host workspace).2.remove workspace.place) (call.probes host)
  | unbuilt {host : Platform} {output : String} {workspace : Workspace} {fault : Fault}
      (prepared : call.Prepared host output workspace)
      (failed : call.buildFault? host workspace output = some fault) :
      Course (.error fault) ((call.built host workspace output).2.remove workspace.place)
        (call.probes host ++ [call.buildLaunch host workspace output])
  | unproduced {host : Platform} {output : String} {workspace : Workspace}
      (prepared : call.Prepared host output workspace)
      (built : call.buildFault? host workspace output = none)
      (absent : call.isProduced host workspace output = false) :
      Course (.error (notProduced output))
        ((call.built host workspace output).2.remove workspace.place)
        (call.probes host ++ [call.buildLaunch host workspace output])
  | produced {host : Platform} {output : String} {workspace : Workspace}
      (prepared : call.Prepared host output workspace)
      (built : call.buildFault? host workspace output = none)
      (present : call.isProduced host workspace output = true) :
      Course (.ok output)
        ((madeExecutable call.setting.directory output
          (call.built host workspace output).2).remove workspace.place)
        (call.probes host ++ [call.buildLaunch host workspace output])

/-! ### Every build takes one of the courses -/

/-- The work in a workspace. -/
def work (host : Platform) (output : String) (workspace : Workspace) : Task Fault String := do
  let table ← generate call.setting call.project workspace
  Task.tell (crossBuilding call.project table (call.request.target host) output)
  compile call.tools call.setting (call.toolchain host) (call.environment host) workspace output
  finish call.setting output
  pure output

section

variable {call} {host : Platform} {output : String} {workspace : Workspace}

variable (call host) in
/-- The toolchain is looked for where it has to be. -/
theorem toolchain_eq : call.toolchain host =
    .expected call.setting call.builder.config.resourcesDirectory host := by
  have hname : (if host.system = .windows then "go.exe" else "go") =
      "go" ++ host.system.executableSuffix := by
    cases host.system <;> decide
  rw [toolchain, command, hname]
  rfl

variable (call host workspace) in
theorem comes_written : Comes IsQuiet (generate call.setting call.project workspace)
    (call.made host).2
    (((call.written host workspace).1.mapError fun fault => Fault.workspace fault.message).map
      fun _ => .ofRecords call.project.endpoints)
    (call.written host workspace).2 [] :=
  comes_generate call.project workspace

theorem comes_written_ok (h : (call.written host workspace).1 = .ok ()) :
    Comes IsQuiet (generate call.setting call.project workspace) (call.made host).2
      (.ok (.ofRecords call.project.endpoints)) (call.written host workspace).2 [] := by
  have hwritten := call.comes_written host workspace
  rw [h] at hwritten
  exact hwritten

theorem comes_written_error {fault : Program.WriteFault}
    (h : (call.written host workspace).1 = .error fault) :
    Comes IsQuiet (generate call.setting call.project workspace) (call.made host).2
      (.error (.workspace fault.message)) (call.written host workspace).2 [] := by
  have hwritten := call.comes_written host workspace
  rw [h] at hwritten
  exact hwritten

/-- The work in a workspace in which the program was written. -/
theorem comes_work (prepared : call.Prepared host output workspace) :
    ∃ result tree', call.Course result (tree'.remove workspace.place)
        (call.probes host ++ [call.buildLaunch host workspace output]) ∧
      Comes IsQuiet (call.work host output workspace) (call.made host).2 result tree'
        [call.buildLaunch host workspace output] := by
  have hgenerate := comes_written_ok prepared.written
  have hcompile : Comes IsQuiet
      (compile call.tools call.setting (call.toolchain host) (call.environment host) workspace output)
      (call.written host workspace).2 (settled (call.buildFault? host workspace output))
      (call.built host workspace output).2 [call.buildLaunch host workspace output] :=
    comes_compile _ _ _ _
  cases hfault : call.buildFault? host workspace output with
  | some fault =>
    rw [hfault] at hcompile
    refine ⟨_, _, .unbuilt prepared hfault, ?_⟩
    refine comes_bind hgenerate ?_
    refine comes_bind (comes_tell _ rfl) ?_
    exact comes_bind_error hcompile
  | none =>
    rw [hfault] at hcompile
    cases hfile : call.isProduced host workspace output with
    | false =>
      refine ⟨_, _, .unproduced prepared hfault hfile, ?_⟩
      refine comes_bind hgenerate ?_
      refine comes_bind (comes_tell _ rfl) ?_
      exact comes_bind_ok hcompile (comes_bind_error (comes_finish_error hfile))
    | true =>
      refine ⟨_, _, .produced prepared hfault hfile, ?_⟩
      refine comes_bind hgenerate ?_
      refine comes_bind (comes_tell _ rfl) ?_
      exact comes_bind_ok hcompile (comes_bind (comes_finish_ok hfile) (comes_pure _ _))

/-- The work of a build whose toolchain can be used, from the making of its workspace on. -/
theorem comes_use_work (equipped : call.Equipped host output) :
    ∃ result tree' launches, call.Course result tree' (call.probes host ++ launches) ∧
      Comes IsQuiet (Workspace.use call.setting call.builder.config (call.work host output))
        (call.probed host) result tree' launches := by
  have hquiet : ∀ workspace : Workspace, IsQuiet (Workspace.created workspace) := fun _ => rfl
  cases hmade : (call.made host).1 with
  | error fault =>
    -- Nothing was made, so nothing has to be removed.
    refine ⟨_, _, [], ?_, Workspace.comes_use_error hquiet hmade⟩
    rw [List.append_nil]
    exact .unmade equipped hmade
  | ok workspace =>
    cases hwritten : (call.written host workspace).1 with
    | error fault =>
      have hwork : Comes IsQuiet (call.work host output workspace) (call.made host).2
          (.error (.workspace fault.message)) (call.written host workspace).2 [] :=
        comes_bind_error (comes_written_error hwritten)
      refine ⟨_, _, [], ?_, Workspace.comes_use hquiet hmade hwork⟩
      rw [List.append_nil]
      exact .unwritten equipped hmade hwritten
    | ok _ =>
      have prepared : call.Prepared host output workspace := ⟨equipped, hmade, hwritten⟩
      obtain ⟨result, tree', hcourse, hwork⟩ := comes_work prepared
      exact ⟨_, _, _, hcourse, Workspace.comes_use hquiet hmade hwork⟩

theorem comes_located (located : call.isLocated host = true) :
    Comes IsQuiet (Toolchain.locate call.setting call.builder.config.resourcesDirectory host)
      call.tree (.ok (call.toolchain host)) call.tree [] := by
  have hfound : call.tree.isFile call.setting.directory (call.toolchain host).command = true :=
    located
  refine comes_tree_bind ?_
  rw [Toolchain.find, ← call.toolchain_eq host, if_pos hfound]
  exact comes_bind (comes_tell _ rfl) (comes_pure _ _)

theorem comes_missing (absent : call.isLocated host = false) :
    Comes IsQuiet (Toolchain.locate call.setting call.builder.config.resourcesDirectory host)
      call.tree (.error (.noToolchain (call.command host))) call.tree [] := by
  have hmissing : ¬ call.tree.isFile call.setting.directory (call.toolchain host).command = true :=
    ne_true_of_eq_false absent
  refine comes_tree_bind ?_
  rw [Toolchain.find, ← call.toolchain_eq host, if_neg hmissing]
  exact comes_throw _ _

variable (call host) in
theorem comes_version : Comes IsQuiet
    (probe call.tools call.setting (call.toolchain host) (call.environment host))
    (call.marked host) (settled (probeFault? (call.version host).1))
    (call.version host).2 [call.versionLaunch host] :=
  comes_probe _ _

/-- A probe that is wanted and succeeds, or that is not wanted. -/
theorem comes_probing_ok {next : Unit → Task Fault String} {result : Except Fault String}
    {tree' : FileTree} {launches : List Launch} (usable : call.versionFault? host = none)
    (rest : Comes IsQuiet (next ()) (call.probed host) result tree' launches) :
    Comes IsQuiet (if call.builder.config.probeToolchain = true then
        probe call.tools call.setting (call.toolchain host) (call.environment host) >>= next
      else next ()) (call.marked host) result tree' (call.probes host ++ launches) := by
  have hprobe := call.comes_version host
  -- Both the fault and the files hang on whether the probe is wanted.
  rw [versionFault?] at usable
  rw [probed] at rest
  rw [probes]
  by_cases hwanted : call.builder.config.probeToolchain = true
  · rw [if_pos hwanted] at usable rest ⊢
    rw [usable] at hprobe
    rw [if_pos hwanted]
    exact comes_bind_ok hprobe rest
  · rw [if_neg hwanted] at rest ⊢
    rw [if_neg hwanted]
    exact rest

theorem comes_probing_error {next : Unit → Task Fault String} {fault : Fault}
    (failed : call.versionFault? host = some fault) :
    Comes IsQuiet (if call.builder.config.probeToolchain = true then
        probe call.tools call.setting (call.toolchain host) (call.environment host) >>= next
      else next ()) (call.marked host) (.error fault) (call.probed host) (call.probes host) := by
  have hprobe := call.comes_version host
  rw [versionFault?] at failed
  rw [probed, probes]
  by_cases hwanted : call.builder.config.probeToolchain = true
  · rw [if_pos hwanted] at failed
    rw [failed] at hprobe
    rw [if_pos hwanted, if_pos hwanted, if_pos hwanted]
    exact comes_bind_error hprobe
  · rw [if_neg hwanted] at failed
    cases failed

/-- The stages behind the choice of the output. -/
theorem comes_produce (aimed : call.Aimed host output) :
    ∃ result tree' launches, call.Course result tree' launches ∧
      Comes IsQuiet (call.builder.produce call.tools call.setting call.project host
        (call.request.target host) output) call.tree result tree' launches := by
  have hensure : Comes IsQuiet
      ((call.toolchain host).ensureExecutable call.setting : Task Fault Unit) call.tree (.ok ())
      (call.marked host) [] :=
    comes_ensureExecutable _
  cases hlocated : call.isLocated host with
  | false => exact ⟨_, _, _, .missing aimed hlocated, comes_bind_error (comes_missing hlocated)⟩
  | true =>
    cases hfault : call.versionFault? host with
    | some fault =>
      refine ⟨_, _, _, .unusable aimed hlocated hfault, ?_⟩
      refine comes_bind (comes_located hlocated) ?_
      exact comes_bind hensure (comes_probing_error hfault)
    | none =>
      obtain ⟨result, tree', launches, hcourse, hwork⟩ := comes_use_work ⟨aimed, hlocated, hfault⟩
      refine ⟨_, _, _, hcourse, ?_⟩
      refine comes_bind (comes_located hlocated) ?_
      exact comes_bind hensure (comes_probing_ok hfault hwork)

end

/-- What is told while the user answers. -/
def asked : List Log.Event :=
  match call.host? with
  | some host => (call.prompt (call.offered host)).events
  | none => []

/-- What the user is offered by a build before which a number of events were told. -/
def offers (told : Nat) : List Offer :=
  match call.host? with
  | some host => [⟨call.offered host, told⟩]
  | none => []

/-- The machine once the user has answered. -/
def afterAnswer (m : Machine) : Machine :=
  { m with log := m.log ++ call.asked, offers := m.offers ++ call.offers m.log.length }

theorem course_of_outputOf_error {host : Platform} {fault : Fault} (known : call.host? = some host)
    (h : outputOf call.setting (call.answer? host) = .error fault) :
    call.Course (.error fault) call.tree [] := by
  cases hanswer : call.answer? host with
  | none =>
    rw [hanswer] at h
    cases h
    exact .cancelled known hanswer
  | some path =>
    cases habsolute : Path.absolute? call.setting.directoryPath path with
    | none =>
      simp only [outputOf, hanswer, habsolute] at h
      cases h
      exact .misdirected known hanswer habsolute
    | some output =>
      simp only [outputOf, hanswer, habsolute] at h
      cases h

theorem aimed_of_outputOf_ok {host : Platform} {output : String} (known : call.host? = some host)
    (h : outputOf call.setting (call.answer? host) = .ok output) : call.Aimed host output := by
  refine ⟨known, ?_⟩
  cases hanswer : call.answer? host with
  | none =>
    rw [hanswer] at h
    cases h
  | some path =>
    cases habsolute : Path.absolute? call.setting.directoryPath path with
    | none =>
      simp only [outputOf, hanswer, habsolute] at h
      cases h
    | some absolute =>
      simp only [outputOf, hanswer, habsolute] at h
      cases h
      exact habsolute

/-- **Every build takes one of the courses.**  The user is asked before anything else is told,
and nothing of what is told behind that tells the end. -/
theorem exists_course (m : Machine) (h : m.tree = call.tree) :
    ∃ result tree' launches events, call.Course result tree' launches ∧
      (∀ e ∈ events, IsQuiet e) ∧
      call.attempt.run.run m = (result, (call.afterAnswer m).after tree' launches events) := by
  rw [attempt, Builder.attempt]
  cases hhost : call.builder.host.platform? with
  | none =>
    have hasked : call.afterAnswer m = m := by
      rw [afterAnswer, asked, offers, host?, hhost, List.append_nil, List.append_nil]
    refine ⟨_, _, _, [], .unsupported hhost, List.forall_mem_nil _, ?_⟩
    rw [hasked, Machine.after, ← h, List.append_nil, List.append_nil]
    rfl
  | some host =>
    -- What the user tells while answering may be anything, so this one step is taken apart from
    -- the quiet rest.
    have hrun : (chooseOutput call.setting call.prompt (call.offered host)).run.run m =
        (outputOf call.setting (call.answer? host), call.afterAnswer m) := by
      rw [run_chooseOutput, afterAnswer, asked, offers, host?, hhost]
      rfl
    have hbind := fun rest : String → Task Fault String =>
      run_bind (chooseOutput call.setting call.prompt (call.offered host)) rest m
    rw [hrun] at hbind
    cases hchosen : outputOf call.setting (call.answer? host) with
    | error fault =>
      refine ⟨_, _, _, [], call.course_of_outputOf_error hhost hchosen, List.forall_mem_nil _, ?_⟩
      rw [hchosen] at hbind
      refine (hbind _).trans ?_
      rw [Machine.after, ← h, List.append_nil, List.append_nil]
      rfl
    | ok output =>
      obtain ⟨result, tree', launches, hcourse, hproduce⟩ :=
        comes_produce (call.aimed_of_outputOf_ok hhost hchosen)
      obtain ⟨events, hquiet, hend⟩ := hproduce.exists_run_eq (call.afterAnswer m) h
      rw [hchosen] at hbind
      exact ⟨result, tree', launches, events, hcourse, hquiet, (hbind _).trans hend⟩

end Call

/-- What a builder is called on. -/
def Builder.call (tools : Launcher) (setting : Setting) (builder : Builder) (session : Session)
    (request : TargetRequest) (prompt : Prompt) (tree : FileTree) : Call :=
  ⟨tools, setting, builder, session.project, request, prompt, tree⟩

/-- **A build takes one of the courses, and its end is told once, as the last event.** -/
theorem exists_course_of_build (tools : Launcher) (setting : Setting) (builder : Builder)
    (session : Session) (request : TargetRequest) (prompt : Prompt) (m : Machine) :
    let call := builder.call tools setting session request prompt m.tree
    ∃ result tree' launches events, call.Course result tree' launches ∧
      (∀ e ∈ events, IsQuiet e) ∧
      (builder.build tools setting session request prompt).run m =
        ((Builder.reportOf result, Builder.remember session (Builder.reportOf result)),
          (call.afterAnswer m).after tree' launches
            (events ++ [Builder.ended (Builder.reportOf result)])) := by
  intro call
  obtain ⟨result, tree', launches, events, hcourse, hquiet, hrun⟩ := call.exists_course m rfl
  refine ⟨result, tree', launches, events, hcourse, hquiet, ?_⟩
  have hbuild : (builder.build tools setting session request prompt).run m =
      ((Builder.reportOf (call.attempt.run.run m).1,
          Builder.remember session (Builder.reportOf (call.attempt.run.run m).1)),
        { (call.attempt.run.run m).2 with
          log := (call.attempt.run.run m).2.log ++
            [Builder.ended (Builder.reportOf (call.attempt.run.run m).1)] }) := rfl
  rw [hbuild, hrun]
  simp only [Machine.after, List.append_assoc]

end MockServer.Build
