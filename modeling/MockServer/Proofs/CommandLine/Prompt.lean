/-
What a user answers on an input.

The answer is the first line of the input, which ends behind the first newline, or with the
input where there is none.  An input that is empty and a line that is no text decline; any
other line names a destination, and a blank one names the destination on offer.  No answer
is empty, since no name on offer is, so every answered path can be made absolute.  Main
statements:

* `takeLine_of_not_mem`, `takeLine_append_newline` — the line goes up to the first newline;
* `promptOn_eq_of_text`, `promptOn_eq_of_not_text` — what a line answers;
* `report_ne_invalidOutput` — a user who never answers with nothing is not refused;
* `promptOn_answers_line` — what an input answers, and that a build takes the answer.
-/
import MockServer.CommandLine.Prompt
import MockServer.Proofs.Build.Footprint
import MockServer.Proofs.Text.Utf8

namespace MockServer.CommandLine

open MockServer.Build

/-! ### Lines -/

/-- Without a newline everything is the line. -/
theorem takeLine_of_not_mem {input : List UInt8} (h : 10 ∉ input) :
    takeLine input = (input, []) := by
  induction input with
  | nil => rfl
  | cons b input ih =>
    obtain ⟨hb, hinput⟩ := not_or.1 (mt List.mem_cons.2 h)
    rw [takeLine, if_neg (Ne.symm hb), ih hinput]

/-- The line ends with the first newline. -/
theorem takeLine_append_newline {before : List UInt8} (h : 10 ∉ before) (rest : List UInt8) :
    takeLine (before ++ 10 :: rest) = (before ++ [10], rest) := by
  induction before with
  | nil => rw [List.nil_append, takeLine, if_pos rfl, List.nil_append]
  | cons b before ih =>
    obtain ⟨hb, hbefore⟩ := not_or.1 (mt List.mem_cons.2 h)
    rw [List.cons_append, takeLine, if_neg (Ne.symm hb), ih hbefore, List.cons_append]

theorem takeLine_eq_nil_iff {input : List UInt8} : (takeLine input).1 = [] ↔ input = [] := by
  cases input with
  | nil => exact iff_of_true rfl rfl
  | cons b input =>
    rw [takeLine]
    split <;> simp

/-! ### Answers -/

section

variable {input : List UInt8} {text : String} (name : String)

/-- What a line answers that is a text. -/
theorem promptOn_eq_of_text (h : Text.encode text = (takeLine input).1) (hinput : input ≠ []) :
    promptOn input name =
      ⟨some (if Text.trim text = "" then name else Text.trim text), []⟩ := by
  have hline : (takeLine input).1 ≠ [] := fun hline => hinput (takeLine_eq_nil_iff.1 hline)
  rw [promptOn]
  split
  · contradiction
  · rw [Text.decode?_eq_some_iff.2 h]
    simp only [destinationOf, Option.map_some, Text.trim_eq_empty_iff]

/-- What a line answers that is no text. -/
theorem promptOn_eq_of_not_text (h : ¬ ∃ text, Text.encode text = (takeLine input).1) :
    promptOn input name = ⟨none, [lineUnreadable]⟩ := by
  have hdecode : Text.decode? (takeLine input).1 = none := by
    rw [Option.eq_none_iff_forall_ne_some]
    exact fun text htext => h ⟨text, Text.decode?_eq_some_iff.1 htext⟩
  rw [promptOn]
  split
  · rename_i hline
    rw [hline] at h
    exact absurd ⟨"", rfl⟩ h
  · rw [hdecode]

theorem destination_eq_none_iff :
    (promptOn input name).destination = none ↔
      input = [] ∨ ¬ ∃ text, Text.encode text = (takeLine input).1 := by
  by_cases hinput : input = []
  · rw [hinput]
    exact iff_of_true rfl (.inl rfl)
  by_cases htext : ∃ text, Text.encode text = (takeLine input).1
  · obtain ⟨text, htext⟩ := id htext
    rw [promptOn_eq_of_text name htext hinput]
    simp [*]
  · rw [promptOn_eq_of_not_text name htext]
    exact iff_of_true rfl (.inr htext)

/-- An answer is empty only where the name on offer is. -/
theorem ne_empty_of_destination {path : String} (hname : name ≠ "")
    (h : (promptOn input name).destination = some path) : path ≠ "" := by
  have hanswers : ¬ (input = [] ∨ ¬ ∃ text, Text.encode text = (takeLine input).1) := by
    rw [← destination_eq_none_iff name, h]
    exact nofun
  obtain ⟨hinput, htext⟩ := not_or.1 hanswers
  obtain ⟨text, htext⟩ := not_not.1 htext
  rw [promptOn_eq_of_text name htext hinput] at h
  cases h
  split
  · exact hname
  · assumption

end

/-- Whatever follows the line does not matter. -/
theorem promptOn_congr {input other : List UInt8}
    (h : (takeLine other).1 = (takeLine input).1) : promptOn other = promptOn input := by
  funext name
  rw [promptOn, promptOn, h]

/-! ### Builds -/

theorem offeredName_ne_empty (project : Project) (target : Platform) :
    offeredName project target ≠ "" := by
  rw [offeredName, Ne, String.append_eq_empty_iff]
  exact fun h => Project.slug_ne_empty project.name h.1

theorem stage_of_reports_invalidOutput {stage : Stage} {path : String}
    (h : stage.Reports (invalidOutput path)) : stage = .output := by
  have hearly := (isEarly_iff_of_reports h).1 (.invalidOutput path)
  generalize hfault : invalidOutput path = fault at h
  cases h with
  | misdirected other => rfl
  | unprepared h => exact absurd hearly (by decide)
  | _ => cases hfault

/-- A path that is not empty is not refused. -/
theorem fault_output_eq_none {call : Call}
    (h : ∀ host path, call.answer? host = some path → path ≠ "") : call.fault .output = none := by
  rw [Option.eq_none_iff_forall_ne_some]
  intro fault hfault
  obtain ⟨host, -, hanswer⟩ := Option.bind_eq_some_iff.1 hfault
  obtain ⟨path, hpath, hrefused⟩ := Option.bind_eq_some_iff.1 hanswer
  obtain ⟨hnone, -⟩ := Option.ite_none_right_eq_some.1 hrefused
  exact h host path hpath (Path.absolute?_eq_none_iff.1 hnone)

/-- A build on a user who never answers with nothing is not refused for a path. -/
theorem report_ne_invalidOutput (tools : Launcher) (setting : Setting) (builder : Builder)
    (session : Session) (request : TargetRequest) {prompt : Prompt} (m : Machine)
    (h : ∀ name path, name ≠ "" → (prompt name).destination = some path → path ≠ "")
    (path : String) :
    ((builder.build tools setting session request prompt).run m).1.1 ≠
      .error (invalidOutput path) := by
  obtain ⟨result, tree', launches, events, hcourse, -, hrun⟩ :=
    exists_course_of_build tools setting builder session request prompt m
  rw [hrun]
  intro hreport
  obtain ⟨stage, hfails, -⟩ := (reportOf_eq_error_iff hcourse _).1 hreport
  cases stage_of_reports_invalidOutput (Call.reports_of_fault hfails)
  have hpasses : (builder.call tools setting session request prompt m.tree).fault .output = none :=
    fault_output_eq_none fun _ path => h _ path (offeredName_ne_empty _ _)
  rw [hpasses] at hfails
  cases hfails

/-- **What an input answers.**  The line is taken up to the first newline, with it, and all
that follows stays; where there is no newline everything is taken.  The input declines if and
only if it is empty or its line is no text.  Any other line names the destination: its text
without the white space around it, or what is on offer where that leaves nothing.  A project
offers no empty name, so no answer to it is empty, and no build on such an input is ever
refused for the path of its executable. -/
theorem promptOn_answers_line (input : List UInt8) :
    (10 ∉ input → takeLine input = (input, [])) ∧
    (∀ before rest, 10 ∉ before → input = before ++ 10 :: rest →
      takeLine input = (before ++ [10], rest)) ∧
    (∀ other, (takeLine other).1 = (takeLine input).1 → promptOn other = promptOn input) ∧
    (∀ name, (promptOn input name).destination = none ↔
      input = [] ∨ ¬ ∃ text, Text.encode text = (takeLine input).1) ∧
    (∀ name text, input ≠ [] → Text.encode text = (takeLine input).1 →
      promptOn input name = ⟨some (if Text.trim text = "" then name else Text.trim text), []⟩) ∧
    (∀ project target path,
      (promptOn input (offeredName project target)).destination = some path → path ≠ "") ∧
    ∀ (tools : Launcher) (setting : Setting) (builder : Builder) (session : Session)
      (request : TargetRequest) (m : Machine) (path : String),
      ((builder.build tools setting session request (promptOn input)).run m).1.1 ≠
        .error (invalidOutput path) := by
  refine ⟨takeLine_of_not_mem, ?_, fun _ => promptOn_congr, destination_eq_none_iff, ?_, ?_, ?_⟩
  · rintro before rest hbefore rfl
    exact takeLine_append_newline hbefore rest
  · exact fun name text hinput htext => promptOn_eq_of_text name htext hinput
  · exact fun project target path => ne_empty_of_destination _ (offeredName_ne_empty _ _)
  · intro tools setting builder session request m
    exact report_ne_invalidOutput tools setting builder session request m
      fun name path => ne_empty_of_destination name

end MockServer.CommandLine
