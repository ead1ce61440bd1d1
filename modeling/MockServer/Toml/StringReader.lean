/-
Strings of TOML.

A basic string stands between double quotes and has escapes, a literal one stands between
single quotes and has none.  Between three quotes both may span several lines; the first
line end is then dropped, and in a basic string a backslash at the end of a line joins it
to the next word.
-/
import MockServer.Text.Hex
import MockServer.Toml.Fault

namespace MockServer.Toml

/-- What was read and what follows, or a fault. -/
abbrev Reading (α : Type) := Except Fault (α × List Char)

/-- A fault from one place up to another. -/
def faultBetween (cause : Cause) (start stop : List Char) : Fault :=
  ⟨cause, ⟨start.length, stop.length⟩⟩

/-- A fault at a place. -/
def faultAt (cause : Cause) (s : List Char) : Fault :=
  faultBetween cause s s

/-- A character that may stand in a string or a comment inside one line. -/
def isLineChar (c : Char) : Bool :=
  c == '\t' || (0x20 ≤ c.toNat && c.toNat != 0x7f)

/-- What follows a line end; `none` where there is no line end. -/
def newline? : List Char → Option (List Char)
  | '\n' :: r => some r
  | '\r' :: '\n' :: r => some r
  | _ => none

/-- The character for which an escape of one letter stands. -/
def shortEscape? : Char → Option Char
  | 'b' => some '\x08'
  | 't' => some '\t'
  | 'n' => some '\n'
  | 'f' => some '\x0c'
  | 'r' => some '\r'
  | 'e' => some '\x1b'
  | '"' => some '"'
  | '\\' => some '\\'
  | _ => none

/-- How many hexadecimal digits follow an escape's letter. -/
def escapeWidth? : Char → Option Nat
  | 'x' => some 2
  | 'u' => some 4
  | 'U' => some 8
  | _ => none

/-- The character of an escape behind its backslash, and what follows. -/
def escape? : List Char → Option (Char × List Char)
  | [] => none
  | c :: r =>
    match shortEscape? c with
    | some d => some (d, r)
    | none => do
      let width ← escapeWidth? c
      let digits := r.take width
      let n ← if digits.length = width then Text.hexNumber? digits else none
      if n.isValidChar then some (Char.ofNat n, r.drop width) else none

/-- A blank inside a line. -/
def isBlank (c : Char) : Bool :=
  c == ' ' || c == '\t'

/-- What follows a backslash at the end of a line, blanks and line ends passed over: `none`
where something else follows the backslash in its line. -/
def joinedLine? (s : List Char) : Option (List Char) :=
  (newline? (s.dropWhile isBlank)).map fun r =>
    r.dropWhile fun c => isBlank c || c == '\n' || c == '\r'

/-- Reads a string of one line behind its opening quote. -/
def readLineString (literal : Bool) : (fuel : Nat) → List Char → List Char → Reading String
  | 0, _, s => .error (faultAt .badString s)
  | fuel + 1, text, s =>
    match s with
    | [] => .error (faultAt .badString s)
    | c :: r =>
      if c = (if literal then '\'' else '"') then .ok (String.ofList text, r)
      else if c = '\\' && !literal then
        match escape? r with
        | some (d, t) => readLineString literal fuel (text ++ [d]) t
        | none => .error (faultAt .badEscape r)
      else if isLineChar c then readLineString literal fuel (text ++ [c]) r
      else .error (faultAt .badString s)

/-- The end of a string of several lines: up to two quotes before the last three belong to
the string. -/
def closing? (quote : Char) (s : List Char) : Option (List Char × List Char) :=
  let count := min 5 (s.takeWhile (· == quote)).length
  if 3 ≤ count then some (List.replicate (count - 3) quote, s.drop count) else none

/-- Reads a string of several lines behind its opening quotes and first line end. -/
def readBlockString (literal : Bool) : (fuel : Nat) → List Char → List Char → Reading String
  | 0, _, s => .error (faultAt .badString s)
  | fuel + 1, text, s =>
    match closing? (if literal then '\'' else '"') s with
    | some (quotes, r) => .ok (String.ofList (text ++ quotes), r)
    | none =>
      match s with
      | [] => .error (faultAt .badString s)
      | c :: r =>
        if c = '\\' && !literal then
          match joinedLine? r with
          | some t => readBlockString literal fuel text t
          | none => match escape? r with
            | some (d, t) => readBlockString literal fuel (text ++ [d]) t
            | none => .error (faultAt .badEscape r)
        else match newline? s with
          | some t => readBlockString literal fuel (text ++ ['\n']) t
          | none =>
            if isLineChar c then readBlockString literal fuel (text ++ [c]) r
            else .error (faultAt .badString s)

/-- Reads a string: `none` where none begins. -/
def readString? (s : List Char) : Option (Reading String) :=
  match s with
  | '"' :: '"' :: '"' :: r =>
    some (readBlockString false (r.length + 1) [] ((newline? r).getD r))
  | '\'' :: '\'' :: '\'' :: r =>
    some (readBlockString true (r.length + 1) [] ((newline? r).getD r))
  | '"' :: r => some (readLineString false (r.length + 1) [] r)
  | '\'' :: r => some (readLineString true (r.length + 1) [] r)
  | _ => none

end MockServer.Toml
