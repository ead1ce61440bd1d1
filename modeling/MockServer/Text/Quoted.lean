/-
Texts in quotation marks, as messages show them.

`quoted` puts a text between double quotes; a quote, a backslash and the usual
line controls are escaped by a backslash, and every character that is not
printable is written by its code point.
-/
import MockServer.Text.Hex
import MockServer.Text.Printable

namespace MockServer.Text

/-- One character inside quotation marks. -/
def quotedChar (c : Char) : List Char :=
  match c with
  | '\x00' => ['\\', '0']
  | '\t' => ['\\', 't']
  | '\n' => ['\\', 'n']
  | '\r' => ['\\', 'r']
  | '"' => ['\\', '"']
  | '\\' => ['\\', '\\']
  | c => if isPrintable c then [c] else '\\' :: 'u' :: '\x7b' :: hexDigits c.toNat ++ ['\x7d']

/-- A text in quotation marks. -/
def quoted (s : String) : String :=
  String.ofList ('"' :: s.toList.flatMap quotedChar ++ ['"'])

/-- One character of a path or an argument inside quotation marks; an apostrophe is escaped
as well. -/
def quotedArgumentChar (c : Char) : List Char :=
  if c = '\'' then ['\\', '\''] else quotedChar c

/-- A path or an argument in quotation marks. -/
def quotedArgument (s : String) : String :=
  String.ofList ('"' :: s.toList.flatMap quotedArgumentChar ++ ['"'])

/-- A list of arguments in quotation marks, between brackets. -/
def quotedArguments (items : List String) : String :=
  "[" ++ ", ".intercalate (items.map quotedArgument) ++ "]"

end MockServer.Text
