/-
The text of an authored header value.

A string stands for itself; a whole number loses its point where every whole number
of its size is representable; every other value is written as JSON.  Main statement:
`headerText_string` — authored text is passed on unchanged.
-/
import MockServer.Json.Printer

namespace MockServer.Served

/-- A whole number below the size from which not every whole number is representable. -/
def isExactWhole (x : Number.Binary64) : Bool :=
  x.isWhole && x.truncated < 0x20000000000000

/-- The text of an authored header value. -/
def headerText : Json → String
  | .string s => s
  | .number (.double x) =>
    if isExactWhole x then String.ofList (Number.integer x.toInt)
    else (Json.number (.double x)).text
  | v => v.text

@[simp] theorem headerText_string (s : String) : headerText (.string s) = s := rfl

end MockServer.Served
