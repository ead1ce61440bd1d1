/-
JSON texts.

`compact` writes a value without blanks.  Strings escape the quote, the backslash
and the control characters below U+0020, and nothing else.
-/
import MockServer.Json.Basic
import MockServer.Number.Notation
import MockServer.Text.Hex

namespace MockServer

open Number (Notation)

namespace JsonNumber

/-- The text of a number. -/
def text : JsonNumber → List Char
  | .integer z _ => Number.integer z
  | .double x => x.text Notation.json

end JsonNumber

namespace Json

/-- One character inside a string. -/
def escapedChar (c : Char) : List Char :=
  match c with
  | '"' => ['\\', '"']
  | '\\' => ['\\', '\\']
  | '\x08' => ['\\', 'b']
  | '\x0c' => ['\\', 'f']
  | '\n' => ['\\', 'n']
  | '\r' => ['\\', 'r']
  | '\t' => ['\\', 't']
  | c => if c.toNat < 0x20 then '\\' :: 'u' :: Text.hexPadded 4 c.toNat else [c]

/-- A string with its quotes. -/
def stringText (s : String) : List Char :=
  '"' :: s.toList.flatMap escapedChar ++ ['"']

/-- The parts with a separator between them. -/
def separated (separator : List Char) : List (List Char) → List Char
  | [] => []
  | [part] => part
  | part :: rest => part ++ separator ++ separated separator rest

/-- A truth value's name. -/
def boolText (b : Bool) : List Char :=
  if b then "true".toList else "false".toList

mutual

/-- The text of a value without blanks. -/
def compact : Json → List Char
  | .null => "null".toList
  | .bool b => boolText b
  | .number n => n.text
  | .string s => stringText s
  | .array items => '[' :: separated [','] (compactItems items) ++ [']']
  | .object ms => '\x7b' :: separated [','] (compactMembers ms) ++ ['\x7d']

/-- The texts of some items. -/
def compactItems : List Json → List (List Char)
  | [] => []
  | v :: rest => compact v :: compactItems rest

/-- The texts of some members. -/
def compactMembers : List (String × Json) → List (List Char)
  | [] => []
  | (key, v) :: rest => (stringText key ++ ':' :: compact v) :: compactMembers rest

end

/-- The text of a value without blanks. -/
def text (v : Json) : String :=
  String.ofList v.compact

end Json
end MockServer
