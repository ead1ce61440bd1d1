/-
Words for truth values.

Four words stand for true and four for false; their case and blanks around them mean
nothing, and no other word stands for a truth value.
-/
import MockServer.Text.Ascii
import MockServer.Text.Blank

namespace MockServer.Text

/-- The truth value of a word. -/
def truth? (word : String) : Option Bool :=
  match asciiLower (trim word) with
  | "1" => some true
  | "true" => some true
  | "yes" => some true
  | "on" => some true
  | "0" => some false
  | "false" => some false
  | "no" => some false
  | "off" => some false
  | _ => none

end MockServer.Text
