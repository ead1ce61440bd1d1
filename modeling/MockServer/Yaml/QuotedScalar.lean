/-
Scalars in quotes.

Between single quotes only the quote itself is escaped, by doubling it; between double
quotes a backslash begins an escape.  Line ends are folded in both.
-/
import MockServer.Text.Hex
import MockServer.Yaml.Folding

namespace MockServer.Yaml

/-- What an escape of one letter stands for. -/
def shortEscape? : Char → Option Char
  | '0' => some '\x00'
  | 'a' => some '\x07'
  | 'b' => some '\x08'
  | 't' => some '\t'
  | '\t' => some '\t'
  | 'n' => some '\n'
  | 'v' => some '\x0b'
  | 'f' => some '\x0c'
  | 'r' => some '\r'
  | 'e' => some '\x1b'
  | ' ' => some ' '
  | '"' => some '"'
  | '/' => some '/'
  | '\\' => some '\\'
  | 'N' => some '\u0085'
  | '_' => some '\u00a0'
  | 'L' => some '\u2028'
  | 'P' => some '\u2029'
  | _ => none

/-- How many hexadecimal digits follow an escape's letter. -/
def escapeWidth? : Char → Option Nat
  | 'x' => some 2
  | 'u' => some 4
  | 'U' => some 8
  | _ => none

/-- The character of an escape's digits; surrogates and numbers past the last character have
none. -/
def escapedChar? (width : Nat) (digits : List Char) : Option Char :=
  if digits.length = width then
    (Text.hexNumber? digits).bind fun n => if n.isValidChar then some (Char.ofNat n) else none
  else none

/-- The place some characters further in the same line. -/
def Cursor.advance (c : Cursor) (n : Nat) : Cursor :=
  ⟨c.rest.drop n, c.index + n, c.line, c.column + n⟩

/-- Reads an escape behind its backslash: a character, or an escaped line end. -/
def readEscape (c : Cursor) : Option (Option Char × Cursor) :=
  match c.rest with
  | [] => none
  | x :: r =>
    if isBreak x then some (none, c.step)
    else match shortEscape? x with
      | some d => some (some d, c.advance 1)
      | none => (escapeWidth? x).bind fun width =>
        (escapedChar? width (r.take width)).map fun d => (some d, c.advance (1 + width))

/-- The words of a line read so far: up to a gap or the closing quote, or up to an escaped
line end. -/
structure LinePart where
  text : List Char
  broken : Bool
  cursor : Cursor

/-- Reads characters up to a gap, the closing quote or an escaped line end. -/
def readLinePart (single : Bool) : (fuel : Nat) → List Char → Cursor → Option LinePart
  | 0, text, c => some ⟨text, false, c⟩
  | fuel + 1, text, c =>
    if c.atGap then some ⟨text, false, c⟩
    else if single then
      if c.rest.take 2 = ['\'', '\''] then readLinePart single fuel (text ++ ['\'']) (c.advance 2)
      else if c.at? '\'' then some ⟨text, false, c⟩
      else readLinePart single fuel (text ++ c.rest.take 1) c.step
    else if c.at? '"' then some ⟨text, false, c⟩
    else if c.at? '\\' then
      match readEscape (c.advance 1) with
      | none => none
      | some (some d, e) => readLinePart single fuel (text ++ [d]) e
      | some (none, e) => some ⟨text, true, e⟩
    else readLinePart single fuel (text ++ c.rest.take 1) c.step

/-- Reads a quoted scalar behind its opening quote. -/
def readQuoted (single : Bool) :
    (fuel : Nat) → List Char → Cursor → Option (List Char × Cursor)
  | 0, _, _ => none
  | fuel + 1, text, c =>
    if c.atDocumentMark || c.atEnd then none
    else do
      let part ← readLinePart single c.rest.length text c
      if part.cursor.at? (if single then '\'' else '"') then some (part.text, part.cursor.advance 1)
      else
        -- An escaped line end leaves nothing in the text, and neither do the blanks behind it.
        let (gap, e) ← Gap.read 0 part.cursor.rest.length
          (if part.broken then Gap.escaped else Gap.none) part.cursor
        readQuoted single fuel (part.text ++ gap.text) e

end MockServer.Yaml
