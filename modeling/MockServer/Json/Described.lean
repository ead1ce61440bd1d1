/-
How messages describe a JSON value.

A description names the kind of a value and, where it is short, the value itself.
-/
import MockServer.Json.Printer
import MockServer.Text.Quoted

namespace MockServer.Json

/-- The kind of a value, with the value where it is no collection. -/
def described : Json → String
  | .null => "null"
  | .bool b => "boolean `" ++ String.ofList (boolText b) ++ "`"
  | .number (.integer z h) => "integer `" ++ (number (.integer z h)).text ++ "`"
  | .number (.double x) => "floating point `" ++ (number (.double x)).text ++ "`"
  | .string s => "string " ++ Text.quoted s
  | .array _ => "sequence"
  | .object _ => "map"

/-- The fault of a value that is of another kind than expected. -/
def mismatch (found : Json) (expected : String) : String :=
  "invalid type: " ++ found.described ++ ", expected " ++ expected

end MockServer.Json
