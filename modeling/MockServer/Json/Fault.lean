/-
Faults of JSON texts.

A fault is a cause and a place.  The place is kept as the part of the text that was
still to be read, with the number of bytes looked at beyond it; lines and columns
are counted from it only when the fault is shown.  Lines are counted from one, and
a column is the number of bytes of its line up to the place.
-/
import MockServer.Number.Digits
import MockServer.Text.Bytes

namespace MockServer

/-- What is wrong with a JSON text. -/
inductive JsonFault.Cause where
  | endOfList
  | endOfObject
  | endOfString
  | endOfValue
  | expectedColon
  | expectedListCommaOrEnd
  | expectedObjectCommaOrEnd
  | expectedWord
  | expectedValue
  | badEscape
  | badNumber
  | numberOutOfRange
  | loneSurrogate
  | controlCharacter
  | keyNotString
  | trailingComma
  | trailingCharacters
  | unfinishedEscape
  | tooDeep
  deriving DecidableEq, Repr

/-- A cause, with the text left to read and the number of bytes looked at beyond. -/
structure JsonFault where
  cause : JsonFault.Cause
  rest : List Char
  ahead : Nat
  deriving DecidableEq, Repr

namespace JsonFault

/-- The wording of a cause. -/
def Cause.message : Cause → String
  | .endOfList => "EOF while parsing a list"
  | .endOfObject => "EOF while parsing an object"
  | .endOfString => "EOF while parsing a string"
  | .endOfValue => "EOF while parsing a value"
  | .expectedColon => "expected `:`"
  | .expectedListCommaOrEnd => "expected `,` or `]`"
  | .expectedObjectCommaOrEnd => "expected `,` or `\x7d`"
  | .expectedWord => "expected ident"
  | .expectedValue => "expected value"
  | .badEscape => "invalid escape"
  | .badNumber => "invalid number"
  | .numberOutOfRange => "number out of range"
  | .loneSurrogate => "lone leading surrogate in hex escape"
  | .controlCharacter => "control character (\\u0000-\\u001F) found while parsing a string"
  | .keyNotString => "key must be a string"
  | .trailingComma => "trailing comma"
  | .trailingCharacters => "trailing characters"
  | .unfinishedEscape => "unexpected end of hex escape"
  | .tooDeep => "recursion limit exceeded"

/-- A fault at the place reached. -/
def reached (cause : Cause) (rest : List Char) : JsonFault :=
  ⟨cause, rest, 0⟩

/-- A fault at the next byte, which was looked at. -/
def next (cause : Cause) (rest : List Char) : JsonFault :=
  ⟨cause, rest, 1⟩

/-- The number of bytes of a list of characters. -/
def byteLength (s : List Char) : Nat :=
  (String.ofList s).utf8ByteSize

/-- The bytes of a text up to the place of a fault. -/
def before (source : String) (fault : JsonFault) : List UInt8 :=
  (Text.encode source).take
    (Text.byteCount source - byteLength fault.rest + fault.ahead)

/-- The line and the column of a place, from the bytes before it. -/
def position (bytes : List UInt8) : Nat × Nat :=
  (1 + bytes.count 10, (bytes.reverse.takeWhile (· ≠ 10)).length)

/-- The message of a fault in a text. -/
def message (source : String) (fault : JsonFault) : String :=
  let (line, column) := position (fault.before source)
  fault.cause.message ++ " at line " ++ String.ofList (Number.digits line)
    ++ " column " ++ String.ofList (Number.digits column)

end JsonFault
end MockServer
