/-
Sessions over many builds.

A session lives through builds, each with tools, files, a user and a builder of its own, and
its project may be replaced between them.  After each build its report, the session and the
log say the same; whatever a user tells while answering is kept apart from what the build
itself tells.  Main statements:

* `Stage.Reports.message_ne_empty` — every fault of a build has words;
* `Report.toJson_eq` — what of a report is printed;
* `agrees_take` — what one build does;
* `after_agrees` — what any number of builds and replacements comes to.
-/
import Mathlib.Data.List.Induction
import MockServer.Proofs.Build.Stages

namespace MockServer.Build

/-! ### Words of faults -/

theorem append_ne_empty {s : String} (h : s ≠ "") (t : String) : s ++ t ≠ "" :=
  fun happend => h (String.append_eq_empty_iff.1 happend).1

theorem failedMessage_ne_empty (code : Option Int) (errors : String) :
    Fault.failedMessage code errors ≠ "" := by
  unfold Fault.failedMessage
  split
  · cases code with
    | none => decide
    | some code => exact append_ne_empty (by decide) _
  · rename_i hblank
    exact fun htrim => hblank (Text.trim_eq_empty_iff.1 htrim)

/-- Every fault of a build has words. -/
theorem Stage.Reports.message_ne_empty {stage : Stage} {fault : Fault}
    (h : stage.Reports fault) : fault.message ≠ "" := by
  cases h with
  | unsupported host =>
    refine append_ne_empty (append_ne_empty (append_ne_empty (append_ne_empty ?_ _) _) _) _
    decide
  | cancelled => decide
  | misdirected path => exact append_ne_empty (by decide) _
  | missing absolute => exact append_ne_empty (by decide) _
  | unusable detail => exact append_ne_empty (by decide) detail
  | unprepared h =>
    obtain ⟨detail, -, rfl, -⟩ := h
    exact append_ne_empty (by decide) detail
  | notStarted command reason =>
    exact append_ne_empty (append_ne_empty (append_ne_empty (by decide) _) _) _
  | failed code errors => exact failedMessage_ne_empty code errors
  | unproduced errors => exact failedMessage_ne_empty (some 0) errors

/-! ### Reports -/

namespace Report

/-- The executable, and the port on which it serves. -/
def product? : Report → Option Product
  | .ok product => some product
  | .error _ => none

/-- The fault. -/
def error? : Report → Option Fault
  | .ok _ => none
  | .error fault => some fault

/-- The path of the executable. -/
def path? (report : Report) : Option String :=
  report.product?.map (·.path)

/-- The port on which the executable serves. -/
def port? (report : Report) : Option Nat :=
  report.product?.map (·.port)

/-- The words of the fault. -/
def err? (report : Report) : Option String :=
  report.error?.map (·.message)

/-- A report as JSON has these members, and those that are not set are left out. -/
theorem toJson_eq (report : Report) :
    report.toJson = .object ([("ok", Json.bool report.isOk)]
      ++ (report.path?.map fun path => ("path", Json.string path)).toList
      ++ (report.port?.map fun port => ("port", Json.ofNat port)).toList
      ++ (report.err?.map fun err => ("err", Json.string err)).toList) := by
  cases report <;> rfl

end Report

/-- A report of success, with the session behind it and the events that tell the end. -/
structure Succeeded (report : Report) (after : Session) (ends : List Log.Event) (path : String)
    (port : Nat) : Prop where
  isOk : report.isOk = true
  path_eq : report.path? = some path
  port_eq : report.port? = some port
  err_eq : report.err? = none
  error_eq : report.error? = none
  lastBuild_eq : after.lastBuild = some ⟨path, port⟩
  ends_eq : ends = [⟨.info, sessionTarget, "Build finished",
    [("path", .shown path), ("port", .count port)]⟩]

/-- A report of a fault, with the session before and behind it and the events that tell the
end. -/
structure Failed (report : Report) (before after : Session) (ends : List Log.Event)
    (fault : Fault) : Prop where
  isOk : report.isOk = false
  path_eq : report.path? = none
  port_eq : report.port? = none
  error_eq : report.error? = some fault
  err_eq : report.err? = some fault.message
  message_ne_empty : fault.message ≠ ""
  lastBuild_eq : after.lastBuild = before.lastBuild
  ends_eq : (fault = .cancelled ∧ ends = [⟨.info, sessionTarget, "Build cancelled", []⟩]) ∨
    (fault ≠ .cancelled ∧ ends = [⟨.error, sessionTarget, "Build failed",
      [("error", .shown fault.message)]⟩])

theorem succeeded_reportOf (before : Session) (output : String) :
    Succeeded (Builder.reportOf (.ok output))
      (Builder.remember before (Builder.reportOf (.ok output)))
      [Builder.ended (Builder.reportOf (.ok output))] output Program.defaultPort :=
  ⟨rfl, rfl, rfl, rfl, rfl, rfl, rfl⟩

theorem failed_reportOf (before : Session) {fault : Fault} (h : fault.message ≠ "") :
    Failed (Builder.reportOf (.error fault)) before
      (Builder.remember before (Builder.reportOf (.error fault)))
      [Builder.ended (Builder.reportOf (.error fault))] fault where
  isOk := rfl
  path_eq := rfl
  port_eq := rfl
  error_eq := rfl
  err_eq := rfl
  message_ne_empty := h
  lastBuild_eq := rfl
  ends_eq := by
    by_cases hcancelled : fault = .cancelled
    · rw [hcancelled]
      exact .inl ⟨rfl, rfl⟩
    · refine .inr ⟨hcancelled, ?_⟩
      cases fault <;> first | rfl | exact absurd rfl hcancelled

theorem endsBuild_ended (report : Report) : endsBuild (Builder.ended report) = true := by
  cases report with
  | ok product => rfl
  | error fault => cases fault <;> rfl

/-- Of events that are quiet but for the last one, that one tells the end. -/
theorem filter_endsBuild {events : List Log.Event} (h : ∀ e ∈ events, IsQuiet e)
    (report : Report) :
    (events ++ [Builder.ended report]).filter endsBuild = [Builder.ended report] := by
  have hnone : events.filter endsBuild = [] :=
    List.filter_eq_nil_iff.2 fun e he => by rw [h e he]; exact Bool.false_ne_true
  rw [List.filter_append, hnone, List.filter_cons_of_pos (endsBuild_ended report)]
  rfl

/-! ### Histories -/

/-- All that a build is started with but for the session. -/
structure Job where
  tools : Launcher
  setting : Setting
  builder : Builder
  request : TargetRequest
  prompt : Prompt
  tree : FileTree

namespace Job

/-- A machine with the files of the job. -/
def on (job : Job) (m : Machine) : Machine :=
  { m with tree := job.tree }

/-- The build of a session's project, on the files of the job. -/
def run (job : Job) (session : Session) (m : Machine) : (Report × Session) × Machine :=
  (job.builder.build job.tools job.setting session job.request job.prompt).run (job.on m)

/-- What the user tells while answering. -/
def asked (job : Job) (session : Session) : List Log.Event :=
  (job.builder.call job.tools job.setting session job.request job.prompt job.tree).asked

end Job

/-- What happens to a session. -/
inductive Step where
  | replace (project : Project)
  | build (job : Job)

/-- The project that a step puts in place. -/
def Step.project? : Step → Option Project
  | .replace project => some project
  | .build _ => none

/-- Is a step a build? -/
def Step.isBuild : Step → Bool
  | .replace _ => false
  | .build _ => true

/-- What has come of some steps: the session, the machine, and the reports so far. -/
structure History where
  session : Session
  machine : Machine
  reports : List Report

namespace History

/-- One step further. -/
def take (history : History) : Step → History
  | .replace project => { history with session := { history.session with project := project } }
  | .build job =>
    let ((report, session), machine) := job.run history.session history.machine
    ⟨session, machine, history.reports ++ [report]⟩

/-- What comes of some steps. -/
def after (history : History) (steps : List Step) : History :=
  steps.foldl take history

/-- A history before and after a build: the report of the build, the session and what the build
itself told say the same, and the project is as it was. -/
structure Agrees (before : History) (job : Job) (after : History) (report : Report)
    (told : List Log.Event) : Prop where
  reports_eq : after.reports = before.reports ++ [report]
  log_eq : after.machine.log = before.machine.log ++ (job.asked before.session ++ told)
  project_eq : after.session.project = before.session.project
  ended : (∃ path port, Succeeded report after.session (told.filter endsBuild) path port) ∨
    (∃ fault, Failed report before.session after.session (told.filter endsBuild) fault)

theorem take_build {history : History} {job : Job} {report : Report} {session : Session}
    {m : Machine} (h : job.run history.session history.machine = ((report, session), m)) :
    history.take (.build job) = ⟨session, m, history.reports ++ [report]⟩ := by
  rw [take, h]

theorem project_remember (session : Session) (report : Report) :
    (Builder.remember session report).project = session.project := by
  cases report <;> rfl

/-- What one build does. -/
theorem agrees_take (history : History) (job : Job) :
    ∃ report told, Agrees history job (history.take (.build job)) report told := by
  obtain ⟨result, tree', launches, events, hcourse, hquiet, hrun⟩ :=
    exists_course_of_build job.tools job.setting job.builder history.session job.request
      job.prompt (job.on history.machine)
  refine ⟨Builder.reportOf result, events ++ [Builder.ended (Builder.reportOf result)], ?_⟩
  rw [take_build hrun]
  refine ⟨rfl, List.append_assoc _ _ _, project_remember _ _, ?_⟩
  rw [filter_endsBuild hquiet]
  cases result with
  | ok output => exact .inl ⟨_, _, succeeded_reportOf _ output⟩
  | error fault =>
    -- That a fault has words is known of the faults of stages alone.
    obtain ⟨stage, hstage⟩ := Call.failsFirst_of_course hcourse
    have hmessage := (Call.reports_of_fault hstage.fails).message_ne_empty
    exact .inr ⟨fault, failed_reportOf _ hmessage⟩

theorem after_append (history : History) (steps more : List Step) :
    history.after (steps ++ more) = (history.after steps).after more :=
  List.foldl_append

/-- The product of the last report of success, or else the one before all reports. -/
def lastProduct? (reports : List Report) (before : Option Product) : Option Product :=
  (reports.reverse.findSome? Report.product?).or before

/-- The project that was put in place last, or else the one before all steps. -/
def lastProject (steps : List Step) (before : Project) : Project :=
  (steps.reverse.findSome? Step.project?).getD before

/-- One more build remembers its product where it has one. -/
theorem lastBuild_of_agrees {before after : History} {job : Job} {report : Report}
    {told : List Log.Event} (h : Agrees before job after report told) :
    after.session.lastBuild = report.product?.or before.session.lastBuild := by
  rcases h.ended with ⟨path, port, hok⟩ | ⟨fault, hfailed⟩
  · cases report with
    | error fault => cases hok.isOk
    | ok product =>
      rw [hok.lastBuild_eq]
      have hpath := hok.path_eq
      have hport := hok.port_eq
      cases hpath
      cases hport
      rfl
  · cases report with
    | ok product => cases hfailed.isOk
    | error fault => exact hfailed.lastBuild_eq

/-- What is known of a history that came from a session by some steps: its last build is that of
the last report of success, its project the one put in place last, and it has a report for each
build. -/
structure Follows (now : History) (session : Session) (steps : List Step) : Prop where
  lastBuild_eq : now.session.lastBuild = lastProduct? now.reports session.lastBuild
  project_eq : now.session.project = lastProject steps session.project
  length_eq : now.reports.length = steps.countP Step.isBuild

theorem follows_replace {now : History} {session : Session} {steps : List Step}
    (h : now.Follows session steps) (project : Project) :
    (now.take (.replace project)).Follows session (steps ++ [.replace project]) where
  lastBuild_eq := h.lastBuild_eq
  project_eq := by
    rw [lastProject, List.reverse_concat]
    rfl
  length_eq := by
    rw [List.countP_append, ← h.length_eq]
    rfl

theorem follows_build {now next : History} {session : Session} {steps : List Step} {job : Job}
    {report : Report} {told : List Log.Event} (h : now.Follows session steps)
    (agrees : Agrees now job next report told) : next.Follows session (steps ++ [.build job]) where
  lastBuild_eq := by
    rw [lastBuild_of_agrees agrees, h.lastBuild_eq, agrees.reports_eq, lastProduct?, lastProduct?,
      List.reverse_concat, List.findSome?_cons]
    cases report.product? <;> rfl
  project_eq := by
    rw [agrees.project_eq, h.project_eq, lastProject, lastProject, List.reverse_concat]
    rfl
  length_eq := by
    rw [agrees.reports_eq, List.length_append, List.countP_append, ← h.length_eq]
    rfl

/-- What any steps come to. -/
theorem follows_after (session : Session) (m : Machine) (steps : List Step) :
    ((History.mk session m []).after steps).Follows session steps := by
  induction steps using List.reverseRecOn with
  | nil => exact ⟨rfl, rfl, rfl⟩
  | append_singleton steps step ih =>
    -- The step taken last decides what is remembered, so the steps are taken off from the end.
    rw [after_append]
    cases step with
    | replace project => exact follows_replace ih project
    | build job =>
      obtain ⟨report, told, hagrees⟩ := agrees_take ((History.mk session m []).after steps) job
      exact follows_build ih hagrees

/-- **Reports, sessions and the log agree.**  After each build of any number of builds and
replacements, the report, what is remembered and the one event that tells the end say the same;
at any time the last build that is remembered is that of the last report of success, and the
project is the one put in place last, which no build changes. -/
theorem after_agrees (session : Session) (m : Machine) (steps : List Step) :
    let start : History := ⟨session, m, []⟩
    (∀ earlier job, earlier ++ [.build job] <+: steps →
      ∃ report told,
        Agrees (start.after earlier) job (start.after (earlier ++ [.build job])) report told) ∧
    (start.after steps).Follows session steps := by
  intro start
  refine ⟨?_, follows_after session m steps⟩
  intro earlier job _
  rw [after_append]
  exact agrees_take (start.after earlier) job

end History
end MockServer.Build
