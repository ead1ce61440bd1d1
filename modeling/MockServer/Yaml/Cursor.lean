/-
Places in a YAML text.

A cursor is what is left to read together with where it stands: how many characters
lie before it, in which line and in which column.  Main statement:
`length_step_lt` — a step leaves less to read.
-/
namespace MockServer.Yaml

/-- A blank inside a line. -/
def isBlank (c : Char) : Bool :=
  c == ' ' || c == '\t'

/-- A character that ends a line. -/
def isBreak (c : Char) : Bool :=
  c == '\n' || c == '\r' || c == '\u0085' || c == '\u2028' || c == '\u2029'

/-- A character that a text may hold. -/
def isAllowed (c : Char) : Bool :=
  let n := c.toNat
  n == 0x09 || n == 0x0a || n == 0x0d || (0x20 ≤ n && n ≤ 0x7e) || n == 0x85
    || (0xa0 ≤ n && n ≤ 0xfffd) || 0x10000 ≤ n

/-- A letter, digit, hyphen or underscore. -/
def isWordChar (c : Char) : Bool :=
  c.isAlphanum || c == '_' || c == '-'

/-- What is left to read, and where it stands. -/
structure Cursor where
  rest : List Char
  index : Nat
  line : Nat
  column : Nat

namespace Cursor

/-- The beginning of a text. -/
def start (text : List Char) : Cursor :=
  ⟨text, 0, 0, 0⟩

/-- The place behind the next character; the two characters of one line end count as one. -/
def step (c : Cursor) : Cursor :=
  match c.rest with
  | [] => c
  | '\r' :: '\n' :: r => ⟨r, c.index + 2, c.line + 1, 0⟩
  | x :: r =>
    if isBreak x then ⟨r, c.index + 1, c.line + 1, 0⟩ else ⟨r, c.index + 1, c.line, c.column + 1⟩

/-- The place behind some characters. -/
def steps (c : Cursor) : Nat → Cursor
  | 0 => c
  | n + 1 => (c.step).steps n

/-- The characters of a kind that come next, none of which ends a line, and the place behind
them. -/
def span (p : Char → Bool) (c : Cursor) : List Char × Cursor :=
  let taken := c.rest.takeWhile p
  (taken, ⟨c.rest.dropWhile p, c.index + taken.length, c.line, c.column + taken.length⟩)

/-- The place behind the characters of a kind. -/
def skip (p : Char → Bool) (c : Cursor) : Cursor :=
  (c.span p).2

/-- Does a character of a kind come next? -/
def sees (p : Char → Bool) (c : Cursor) : Bool :=
  c.rest.head?.any p

/-- Does this character come next? -/
def at? (x : Char) (c : Cursor) : Bool :=
  c.rest.head? == some x

/-- Is nothing left? -/
def atEnd (c : Cursor) : Bool :=
  c.rest.isEmpty

/-- Does a blank, a line end or the end of the text come next? -/
def atGap (c : Cursor) : Bool :=
  c.atEnd || c.sees fun x => isBlank x || isBreak x

/-- Does a line end or the end of the text come next? -/
def atLineEnd (c : Cursor) : Bool :=
  c.atEnd || c.sees isBreak

/-- Does a mark of three such characters stand here, alone at the beginning of a line? -/
def atMark (x : Char) (c : Cursor) : Bool :=
  c.column == 0 && c.rest.take 3 == [x, x, x] && (c.steps 3).atGap

/-- Does a line here begin or end a document? -/
def atDocumentMark (c : Cursor) : Bool :=
  c.atMark '-' || c.atMark '.'

/-- The line end that comes next, as it counts in a text: the separators of Unicode stand for
themselves, every other one for a line feed. -/
def breakText (c : Cursor) : List Char :=
  match c.rest with
  | [] => []
  | x :: _ => if x == '\u2028' || x == '\u2029' then [x] else if isBreak x then ['\n'] else []

/-- Passes blanks and a comment up to the end of the line, and the line end. -/
def finishLine? (c : Cursor) : Option Cursor :=
  let c := c.skip isBlank
  let c := if c.at? '#' then c.skip (!isBreak ·) else c
  if c.atEnd then some c else if c.sees isBreak then some c.step else none

/-- A step leaves less to read. -/
theorem length_step_lt {c : Cursor} (h : c.rest ≠ []) : c.step.rest.length < c.rest.length := by
  unfold step
  split
  · rename_i he
    exact absurd he h
  · rename_i r he
    simp only [he, List.length_cons]
    omega
  · rename_i x r _ he
    split <;> simp [he]

end Cursor
end MockServer.Yaml
