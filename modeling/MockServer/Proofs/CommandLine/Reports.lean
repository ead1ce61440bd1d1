/-
What a build prints of its end.

A build that reports in JSON prints one line, whatever goes wrong: an object that names the
executable and its port, or one that says why there is none.  The configuration is loaded in
front of the project, so its fault hides the project's; and only what was loaded is built.  Main
statements:

* `Fault.message_eq` — the words of a fault are its causes, from the outermost to the first;
* `loadFails_or_loads` — loading ends in one fault, or gives a configuration and a project;
* `run_build_of_fails`, `run_build_of_loads` — what a build comes to in either case;
* `build_reports` — what a build prints and gives, and with which code the program ends.

Design notes: what a YAML parser says of a text may be anything, also several lines; it is
`Yaml.Wording` throughout, and no statement looks into it.
-/
import MockServer.CommandLine.Ending
import MockServer.Proofs.Build.Course
import MockServer.Proofs.Json.Printed

namespace MockServer

/-! ### Causes of faults -/

/-- The causes of a configuration that was not loaded, the outermost first. -/
def Config.LoadFault.causes : Config.LoadFault → List String
  | .missing path => ["Config file not found: " ++ path]
  | .unreadable path fault => ["Failed to read config: " ++ path, fault.message]
  | .invalid path source fault => ["Failed to parse config: " ++ path, fault.message source]

/-- The causes of a text that is no project; of a text that is not YAML, the last one is in the
words of the parser. -/
def Project.DocumentFault.causes [Yaml.Wording] : Project.DocumentFault → List String
  | .notJson source fault => ["Project document is not valid JSON", fault.message source]
  | @notYaml source =>
    "Project document is not valid YAML" :: (Yaml.Wording.words? source).toList
  | .notObject => ["Project document must be an object with an `endpoints` list"]
  | .shape fault => ["Project document has an unexpected shape", fault.message]

theorem Project.DocumentFault.message_eq [Yaml.Wording] (fault : Project.DocumentFault) :
    fault.message = ": ".intercalate fault.causes := by
  cases fault with
  | @notYaml source =>
    show headed _ _ = ": ".intercalate (_ :: (Yaml.Wording.words? source).toList)
    cases Yaml.Wording.words? source <;> rfl
  | _ => rfl

/-- The causes of a project that was not loaded. -/
def Project.LoadFault.causes [Yaml.Wording] : Project.LoadFault → List String
  | .unreadable path fault => ["Failed to read project document " ++ path, fault.message]
  | .invalid path fault => ("Failed to load project document " ++ path) :: fault.causes

/-- The causes of a program that was not written. -/
def Program.WriteFault.causes : Program.WriteFault → List String
  | .noDirectory path fault => ["Failed to create output directory " ++ path, fault.message]
  | .noFile path fault => ["Failed to write " ++ path, fault.message]

namespace CommandLine

/-- The causes of a fault. -/
def Fault.causes [Yaml.Wording] : Fault → List String
  | .config fault => fault.causes
  | .project fault => fault.causes
  | .program fault => fault.causes

/-- The words of a fault are its causes, from the outermost to the first. -/
theorem Fault.message_eq [Yaml.Wording] (fault : Fault) :
    fault.message = ": ".intercalate fault.causes := by
  cases fault with
  | config fault => cases fault <;> rfl
  | program fault => cases fault <;> rfl
  | project fault =>
    cases fault with
    | unreadable path fault => rfl
    | invalid path fault =>
      have hsome : fault.causes ≠ [] := by cases fault <;> exact List.cons_ne_nil _ _
      show "Failed to load project document " ++ path ++ ": " ++ fault.message =
        ": ".intercalate (("Failed to load project document " ++ path) :: fault.causes)
      rw [String.intercalate_cons_of_ne_nil hsome, ← fault.message_eq]

/-! ### Loading -/

/-- Loading ends in a fault: in that of the configuration, whatever the project is like, or else
in that of the project. -/
inductive LoadFails (setting : Setting) (tree : FileTree) (config : Option String)
    (path : String) : Fault → Prop where
  | config {fault : Config.LoadFault}
      (failed : Config.findLayer tree setting.directory config = .error fault) :
      LoadFails setting tree config path (.config fault)
  | project {layer : Config.Layer} {fault : Project.LoadFault}
      (found : Config.findLayer tree setting.directory config = .ok layer)
      (failed : Project.find tree setting.directory path = .error fault) :
      LoadFails setting tree config path (.project fault)

/-- Loading gives a configuration and a project. -/
structure Loads (setting : Setting) (tree : FileTree) (config : Option String) (path : String)
    (loaded : Config × Project) : Prop where
  config : ∃ layer, Config.findLayer tree setting.directory config = .ok layer ∧
    loaded.1 = Config.resolve setting tree layer setting.environment.get?
  project : Project.find tree setting.directory path = .ok loaded.2

/-- The machine once some events were told. -/
def told (m : Machine) (events : List Log.Event) : Machine :=
  { m with log := m.log ++ events }

/-- What the loading of a configuration tells. -/
def configEvents (setting : Setting) (config : Config) : List Log.Event :=
  Config.resolveNotices setting.environment.get? ++ [Config.loaded config]

/-- What the loading of a configuration and of a project tells. -/
def loadingEvents (setting : Setting) (path : String) (loaded : Config × Project) :
    List Log.Event :=
  configEvents setting loaded.1 ++ [Project.loaded path loaded.2]

section

variable {setting : Setting} {config : Option String} {path : String} {m : Machine}

theorem run_loadConfig :
    (Config.load setting config).run.run m =
      match Config.findLayer m.tree setting.directory config with
      | .error fault => (.error fault, m)
      | .ok layer =>
        let loaded := Config.resolve setting m.tree layer setting.environment.get?
        (.ok loaded, told m (configEvents setting loaded)) := by
  rw [Config.load, Task.run_bind]
  show StateT.run (ExceptT.run (match Config.findLayer m.tree setting.directory config with
    | .error fault => _
    | .ok layer => _)) m = _
  cases Config.findLayer m.tree setting.directory config <;> rfl

theorem run_loadProject :
    (Project.load setting path).run.run m =
      match Project.find m.tree setting.directory path with
      | .ok project => (.ok project, told m [Project.loaded path project])
      | .error fault => (.error fault, m) := by
  rw [Project.load, Task.run_bind]
  show StateT.run (ExceptT.run (match Project.find m.tree setting.directory path with
    | .ok project => _
    | .error fault => _)) m = _
  cases Project.find m.tree setting.directory path <;> rfl

/-- Where loading ends in a fault, it has told something at most. -/
theorem run_loadBoth_of_fails {fault : Fault} (h : LoadFails setting m.tree config path fault) :
    ∃ events, (loadBoth setting config path).run.run m = (.error fault, told m events) := by
  rw [loadBoth, Task.run_bind, Task.run_adapt, run_loadConfig]
  cases h with
  | config failed =>
    rw [failed]
    refine ⟨[], ?_⟩
    rw [told, List.append_nil]
    rfl
  | @project layer fault found failed =>
    rw [found]
    refine ⟨configEvents setting (Config.resolve setting m.tree layer setting.environment.get?),
      (Task.run_bind _ _ _).trans ?_⟩
    rw [Task.run_adapt, run_loadProject]
    simp only [told, failed]
    rfl

/-- What loading gives, and what it has told. -/
theorem run_loadBoth_of_loads {loaded : Config × Project}
    (h : Loads setting m.tree config path loaded) :
    (loadBoth setting config path).run.run m =
      (.ok loaded, told m (loadingEvents setting path loaded)) := by
  obtain ⟨config, project⟩ := loaded
  obtain ⟨⟨layer, hlayer, rfl⟩, hproject⟩ := h
  rw [loadBoth, Task.run_bind, Task.run_adapt, run_loadConfig, hlayer]
  refine (Task.run_bind _ _ _).trans ?_
  rw [Task.run_adapt, run_loadProject]
  simp only [told, hproject, loadingEvents]
  rw [← List.append_assoc]
  rfl

theorem loadFails_or_loads (setting : Setting) (tree : FileTree) (config : Option String)
    (path : String) : (∃ fault, LoadFails setting tree config path fault) ∨
      ∃ loaded, Loads setting tree config path loaded := by
  cases hlayer : Config.findLayer tree setting.directory config with
  | error fault => exact .inl ⟨_, .config hlayer⟩
  | ok layer =>
    cases hproject : Project.find tree setting.directory path with
    | error fault => exact .inl ⟨_, .project hlayer hproject⟩
    | ok project => exact .inr ⟨(_, project), ⟨layer, hlayer, rfl⟩, hproject⟩

end

/-! ### Building -/

/-- The report of a build of what was loaded, on the machine behind the loading. -/
def builtReport (tools : Launcher) (setting : Setting) (host : Host) (prompt : Prompt)
    (path : String) (request : TargetRequest) (m : Machine) (loaded : Config × Project) :
    Build.Report :=
  ((Build.Builder.build tools setting ⟨loaded.1, host⟩ (.new loaded.2) request prompt).run
    (told m (loadingEvents setting path loaded))).1.1

/-- A build prints nothing, and its report is a fault or an executable on the port of every
server. -/
theorem output_of_build (tools : Launcher) (setting : Setting) (builder : Build.Builder)
    (session : Build.Session) (request : TargetRequest) (prompt : Prompt) (m : Machine) :
    ((builder.build tools setting session request prompt).run m).2.output = m.output ∧
      ∀ product, ((builder.build tools setting session request prompt).run m).1.1 = .ok product →
        product.port = Program.defaultPort := by
  obtain ⟨result, tree', launches, events, -, -, hrun⟩ :=
    Build.exists_course_of_build tools setting builder session request prompt m
  rw [hrun]
  refine ⟨rfl, fun product h => ?_⟩
  cases result with
  | error fault => cases h
  | ok output =>
    cases h
    rfl

/-- The machine once a text was printed. -/
def printed (m : Machine) (text : String) : Machine :=
  { m with output := m.output ++ text }

section

variable [Yaml.Wording] (tools : Launcher) {setting : Setting} (host : Host) (prompt : Prompt)
  {config : Option String} {path : String} (request : TargetRequest) (json : Bool) {m : Machine}

/-- A build of what was not loaded ends in the fault of the loading, or reports it in JSON. -/
theorem run_build_of_fails {fault : Fault} (h : LoadFails setting m.tree config path fault) :
    ∃ events, (build tools setting host prompt config path request json).run.run m =
      if json then (.ok false,
        printed (told m events) (printedReport true (.error (.setup fault.message))))
      else (.error fault, told m events) := by
  obtain ⟨events, hload⟩ := run_loadBoth_of_fails h
  refine ⟨events, ?_⟩
  rw [build, Task.run_bind, Task.run_lift, hload]
  cases json <;> rfl

/-- A build of what was loaded prints its report, and nothing else. -/
theorem run_build_of_loads {loaded : Config × Project}
    (h : Loads setting m.tree config path loaded) :
    let report := builtReport tools setting host prompt path request m loaded
    ((build tools setting host prompt config path request json).run.run m).1 = .ok report.isOk ∧
      ((build tools setting host prompt config path request json).run.run m).2.output =
        m.output ++ printedReport json report := by
  have hload := run_loadBoth_of_loads h
  have hbuild : (build tools setting host prompt config path request json).run.run m =
      (.ok (builtReport tools setting host prompt path request m loaded).isOk,
        printed ((Build.Builder.build tools setting ⟨loaded.1, host⟩ (.new loaded.2) request
            prompt).run (told m (loadingEvents setting path loaded))).2
          (printedReport json (builtReport tools setting host prompt path request m loaded))) := by
    rw [build, Task.run_bind, Task.run_lift, hload]
    rfl
  rw [hbuild]
  refine ⟨rfl, ?_⟩
  rw [printed, (output_of_build tools setting _ _ request prompt _).1]
  rfl

end

/-! ### Reports in JSON -/

theorem isExact_failure (err : String) :
    Json.IsExact Json.nestingLimit (.object [("ok", .bool false), ("err", .string err)]) := by
  have hkeys : ["ok", "err"].Nodup := by decide
  refine .object hkeys ?_
  simp only [List.forall_mem_cons, List.not_mem_nil, false_imp_iff, implies_true, and_true]
  exact ⟨.bool _ _, .string _ _⟩

theorem isExact_success (output : String) :
    Json.IsExact Json.nestingLimit (.object [("ok", .bool true), ("path", .string output),
      ("port", .ofNat Program.defaultPort)]) := by
  have hkeys : ["ok", "path", "port"].Nodup := by decide
  refine .object hkeys ?_
  simp only [List.forall_mem_cons, List.not_mem_nil, false_imp_iff, implies_true, and_true]
  refine ⟨.bool _ _, .string _ _, ?_⟩
  rw [Json.ofNat, JsonNumber.ofNat_eq_integer (by decide)]
  exact .integer _ _

section

variable [Yaml.Wording] (tools : Launcher) (setting : Setting) (host : Host) (prompt : Prompt)
  (config : Option String) (path : String) (request : TargetRequest) (m : Machine)

/-- How a build that reports in JSON ends: whether it succeeded, and the members of the object
that it prints. -/
inductive Reported : Bool → List (String × Json) → Prop where
  | notLoaded {fault : Fault} (failed : LoadFails setting m.tree config path fault) :
      Reported false [("ok", .bool false), ("err", .string (": ".intercalate fault.causes))]
  | notBuilt {loaded : Config × Project} {fault : Build.Fault}
      (loads : Loads setting m.tree config path loaded)
      (failed : builtReport tools setting host prompt path request m loaded = .error fault) :
      Reported false [("ok", .bool false), ("err", .string fault.message)]
  | built {loaded : Config × Project} {output : String}
      (loads : Loads setting m.tree config path loaded)
      (done : builtReport tools setting host prompt path request m loaded =
        .ok ⟨output, Program.defaultPort⟩) :
      Reported true [("ok", .bool true), ("path", .string output),
        ("port", .ofNat Program.defaultPort)]

/-- A build that reports in JSON ends in one of these ways, and prints one line. -/
theorem exists_reported :
    ∃ success line members,
      Reported tools setting host prompt config path request m success members ∧
      Json.IsObjectLine line members ∧
      ((build tools setting host prompt config path request true).run.run m).1 = .ok success ∧
      ((build tools setting host prompt config path request true).run.run m).2.output =
        m.output ++ (line ++ "\n") := by
  obtain ⟨fault, hfails⟩ | ⟨loaded, hloads⟩ := loadFails_or_loads setting m.tree config path
  · obtain ⟨events, hrun⟩ := run_build_of_fails tools host prompt request true hfails
    have hmembers : Reported tools setting host prompt config path request m false _ :=
      .notLoaded hfails
    rw [← Fault.message_eq] at hmembers
    exact ⟨_, _, _, hmembers, Json.isObjectLine_text (isExact_failure _), by rw [hrun]; rfl,
      by rw [hrun]; rfl⟩
  · obtain ⟨hresult, houtput⟩ := run_build_of_loads tools host prompt request true hloads
    cases hreport : builtReport tools setting host prompt path request m loaded with
    | error fault =>
      rw [hreport] at hresult houtput
      exact ⟨_, _, _, .notBuilt hloads hreport, Json.isObjectLine_text (isExact_failure _),
        hresult, houtput⟩
    | ok product =>
      obtain ⟨output, port⟩ := product
      obtain rfl : port = Program.defaultPort := (output_of_build tools setting _ _ request prompt
        (told m (loadingEvents setting path loaded))).2 _ hreport
      rw [hreport] at hresult houtput
      exact ⟨_, _, _, .built hloads hreport, Json.isObjectLine_text (isExact_success output),
        hresult, houtput⟩

end

theorem Ending.ofResult_output [Yaml.Wording] (result : Except Fault Bool) (output log : String) :
    (ofResult result output log).output = output := by
  cases result <;> rfl

/-- **What a build tells of its end.**  A build that reports in JSON ends in no fault and prints
one line: an object that names the executable and its port where it succeeded, and else one with
the words of what failed, which are those of the configuration where that was not loaded, those
of the project where only that was not, and those of the build where both were.  Another build
that loads nothing ends in the fault of the loading and prints nothing.  The program ends with
code 0 exactly where the build succeeded. -/
theorem build_reports [Yaml.Wording] {words : List String} {config output : Option String}
    {path : String} {request : TargetRequest} {json : Bool}
    (h : read words = .ok ⟨config, .build path output request json⟩)
    (tools : Launcher) (setting : Setting) (host : Host) :
    let ran (user : Prompt) (m : Machine) :=
      (execute tools setting host user ⟨config, .build path output request json⟩).run.run m
    (json = true → ∀ user m, ∃ success line members,
      Reported tools setting host ((output.map Prompt.fixed).getD user) config path request m
          success members
        ∧ Json.IsObjectLine line members
        ∧ (ran user m).1 = .ok success
        ∧ (ran user m).2.output = m.output ++ (line ++ "\n"))
    ∧ (json = false → ∀ user m fault, LoadFails setting m.tree config path fault →
        (ran user m).1 = .error fault ∧ (ran user m).2.output = m.output)
    ∧ ∀ time input tree,
      ((run tools setting host time words input tree).1.code = 0 ↔
        (ran (promptOn input) (.of tree)).1 = .ok true)
      ∧ (run tools setting host time words input tree).1.output =
        (ran (promptOn input) (.of tree)).2.output := by
  intro ran
  refine ⟨?_, ?_, fun time input tree => ?_⟩
  · rintro rfl user m
    exact exists_reported tools setting host _ config path request m
  · rintro rfl user m fault hfails
    obtain ⟨events, hrun⟩ := run_build_of_fails tools host ((output.map Prompt.fixed).getD user)
      request false hfails
    simp only [ran, execute, hrun]
    exact ⟨rfl, rfl⟩
  · rw [run, h]
    exact ⟨Ending.ofResult_code .., Ending.ofResult_output ..⟩

/-- A project that is missing is reported on one line, and the program does not end with code
0. -/
theorem build_reports_missing :
    let ending := (run (fun _ tree => (.notStarted "", tree)) ⟨[], [], none, fun _ => ""⟩
      ⟨"linux", "x86_64"⟩ "" ["build", "-p", "p.json", "--json"] [] .empty).1
    read ["build", "-p", "p.json", "--json"] = .ok ⟨none, .build "p.json" none ⟨none, none⟩ true⟩
    ∧ ∃ line, Json.IsObjectLine line [("ok", .bool false), ("err", .string
        "Failed to read project document p.json: No such file or directory (os error 2)")]
      ∧ ending.code ≠ 0
      ∧ ending.output = line ++ "\n" := by
  intro ending
  have hread : read ["build", "-p", "p.json", "--json"] =
      .ok ⟨none, .build "p.json" none ⟨none, none⟩ true⟩ := by rfl
  have hlayer : Config.findLayer .empty [] none = .ok .empty := by rfl
  have hproject : Project.find .empty [] "p.json" = .error (.unreadable "p.json" .notFound) := by
    rfl
  obtain ⟨hreports, -, hends⟩ := build_reports hread (fun _ tree => (.notStarted "", tree))
    ⟨[], [], none, fun _ => ""⟩ ⟨"linux", "x86_64"⟩
  obtain ⟨success, line, members, hreported, hline, hresult, houtput⟩ :=
    hreports rfl (promptOn []) (.of .empty)
  obtain ⟨hcode, hout⟩ := hends "" [] .empty
  cases hreported with
  | notLoaded failed =>
    cases failed with
    | config failed => cases failed.symm.trans hlayer
    | project found failed =>
      cases failed.symm.trans hproject
      refine ⟨hread, line, hline, fun hzero => ?_, hout.trans (houtput.trans String.empty_append)⟩
      cases hresult.symm.trans (hcode.1 hzero)
  | notBuilt loads failed => cases loads.project.symm.trans hproject
  | built loads done => cases loads.project.symm.trans hproject

end CommandLine
end MockServer
