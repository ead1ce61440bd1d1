/-
Asking a user for a destination.

The question shows the name on offer.  The answer is the first line of the input, and what
follows that line stays there.  Main statements:

* `takeLine_append` — the line and what is left are the input;
* `takeLine_newline` — no newline stands in the line but at its end.
-/
import MockServer.FileTree.Fault
import MockServer.Machine
import MockServer.Text.Blank

namespace MockServer.CommandLine

/-- The question for a destination. -/
def question (name : String) : String :=
  "Save executable as [" ++ name ++ "]: "

/-- The destination that a line names: the name on offer where the line is blank.  No line
names none. -/
def destinationOf (line : Option String) (name : String) : Option String :=
  line.map fun line => if Text.isBlankText line then name else Text.trim line

/-- The first line of some bytes with its newline, and what is left. -/
def takeLine : List UInt8 → List UInt8 × List UInt8
  | [] => ([], [])
  | b :: rest =>
    if b = 10 then ([b], rest)
    else (b :: (takeLine rest).1, (takeLine rest).2)

/-- What a line that cannot be read tells. -/
def lineUnreadable : Log.Event :=
  ⟨.warn, "mocksmith::cli::commands", "Could not read destination",
    [("error", .shown FileFault.notText.message)]⟩

/-- A user who answers on an input. -/
def promptOn (input : List UInt8) : Prompt := fun name =>
  match (takeLine input).1 with
  | [] => ⟨destinationOf none name, []⟩
  | line =>
    match Text.decode? line with
    | some text => ⟨destinationOf (some text) name, []⟩
    | none => ⟨none, [lineUnreadable]⟩

/-! ### Laws -/

/-- The line and what is left are the input. -/
theorem takeLine_append (input : List UInt8) :
    (takeLine input).1 ++ (takeLine input).2 = input := by
  induction input with
  | nil => rfl
  | cons b rest ih =>
    by_cases h : b = 10
    · simp [takeLine, h]
    · simp [takeLine, h, ih]

/-- No newline stands in the line but at its end. -/
theorem takeLine_newline (input : List UInt8) : (10 : UInt8) ∉ (takeLine input).1.dropLast := by
  induction input with
  | nil => simp [takeLine]
  | cons b rest ih =>
    by_cases h : b = 10
    · simp [takeLine, h]
    · rcases hr : (takeLine rest).1 with _ | ⟨c, cs⟩
      · simp [takeLine, h, hr]
      · rw [hr] at ih
        simp [takeLine, h, hr, Ne.symm h]
        simpa using ih

end MockServer.CommandLine
