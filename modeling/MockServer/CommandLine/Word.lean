/-
The words of a command line.

A word is the divider, a long option, a cluster of one-letter options or plain text.  Main
statement: `ofText_minus` — a lone minus sign is plain text.
-/
namespace MockServer.CommandLine

/-- What a word of a command line is by its form. -/
inductive Word where
  | divider
  | long (name : String) (value : Option String)
  | cluster (letters : List Char)
  | plain (text : String)
  deriving DecidableEq, Repr

/-- The part before the first equals sign, with the part behind it where there is one. -/
def splitEquals (cs : List Char) : String × Option String :=
  (String.ofList (cs.takeWhile (· ≠ '=')),
    match cs.dropWhile (· ≠ '=') with
    | [] => none
    | _ :: behind => some (String.ofList behind))

/-- The form of a word. -/
def Word.ofText (text : String) : Word :=
  match text.toList with
  | ['-', '-'] => .divider
  | '-' :: '-' :: rest => .long (splitEquals rest).1 (splitEquals rest).2
  | '-' :: c :: rest => .cluster (c :: rest)
  | _ => .plain text

theorem splitEquals_append (name value : List Char) (h : '=' ∉ name) :
    splitEquals (name ++ '=' :: value) = (String.ofList name, some (String.ofList value)) := by
  have hn : ∀ c ∈ name, decide (c ≠ '=') = true := fun c hc =>
    decide_eq_true fun e => h (e ▸ hc)
  simp only [splitEquals, List.takeWhile_append_of_pos hn, List.dropWhile_append_of_pos hn]
  simp

/-- A lone minus sign is plain text. -/
theorem Word.ofText_minus : ofText "-" = .plain "-" := rfl

end MockServer.CommandLine
