/-
Faults of TOML texts.

A fault has a cause and a stretch of the text.  Its full wording shows the line of the
text and points at the stretch.
-/
import MockServer.Toml.Value

namespace MockServer.Toml

/-- What is wrong with a text. -/
inductive Cause where
  | noValue
  | emptyKey
  | badKey
  | duplicateKey
  | notExtensible
  | unquotedValue
  | badString
  | badEscape
  | badNumber
  | badMoment
  | badArray
  | badInlineTable
  | badHeading
  | badComment
  | trailing
  deriving DecidableEq, Repr

/-- A cause with the stretch of the text that has it. -/
structure Fault where
  cause : Cause
  span : Span
  deriving DecidableEq, Repr

/-- The wording of a cause. -/
def Cause.message : Cause → String
  | .noValue => "key with no value, expected `=`"
  | .emptyKey => "unquoted keys cannot be empty, expected letters, numbers, `-`, `_`"
  | .badKey => "invalid unquoted key, expected letters, numbers, `-`, `_`"
  | .duplicateKey => "duplicate key"
  | .notExtensible => "cannot extend value with a dotted key"
  | .unquotedValue => "string values must be quoted, expected literal string"
  | .badString => "invalid basic string, expected `\"`"
  | .badEscape => "missing escaped value"
  | .badNumber => "invalid number"
  | .badMoment => "invalid datetime"
  | .badArray => "unclosed array, expected `]`"
  | .badInlineTable => "unclosed inline table, expected `\x7d`"
  | .badHeading => "unclosed table, expected `]`"
  | .badComment => "invalid comment character"
  | .trailing => "unexpected key or value, expected newline, `#`"

/-! ### Showing a place -/

/-- The number of bytes of some characters. -/
def byteLength (s : List Char) : Nat :=
  (String.ofList s).utf8ByteSize

/-- The line that holds a place, with its number and the column of the place, both from
nought.  A place at the end of the text belongs to the last character. -/
structure Spot where
  line : Nat
  column : Nat
  content : List Char

/-- Where a place lies that `before` leads to. -/
def spot (source : List Char) (before : Nat) : Spot :=
  let safe := min before (source.length - 1)
  let head := source.take safe
  let column := (head.reverse.takeWhile (· ≠ '\n')).length
  { line := head.count '\n'
    column := column + (before - safe)
    content := (source.drop (safe - column)).takeWhile (· ≠ '\n') }

/-- The text of a message under the line to which it belongs. -/
def shown (source : String) (span : Span) (message : String) : String :=
  let cs := source.toList
  let place := spot cs (cs.length - span.start)
  let number := String.ofList (Number.digits (place.line + 1))
  let margin := String.ofList (List.replicate (number.length + 1) ' ')
  let marked := byteLength ((cs.drop (cs.length - span.start)).take (span.start - span.stop))
  let width := min marked (byteLength place.content - place.column)
  "TOML parse error at line " ++ number ++ ", column "
    ++ String.ofList (Number.digits (place.column + 1)) ++ "\n" ++ margin ++ "|\n"
    ++ number ++ " | " ++ String.ofList place.content ++ "\n"
    ++ margin ++ "|" ++ String.ofList (List.replicate (place.column + 1) ' ')
    ++ String.ofList (List.replicate (max width 1) '^') ++ "\n" ++ message ++ "\n"

/-- The full wording of a fault in a text. -/
def Fault.shown (fault : Fault) (source : String) : String :=
  Toml.shown source fault.span fault.cause.message

end MockServer.Toml
