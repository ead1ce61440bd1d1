/-
Reading TOML texts.

A text is a list of lines, each a heading, a key with its value, a comment or nothing.  A
heading says in which table the keys behind it stand.  The value of a text is its root
table.
-/
import MockServer.Toml.Scalar
import MockServer.Toml.StringReader
import MockServer.Toml.Table

namespace MockServer.Toml

/-! ### Gaps -/

/-- What follows the blanks of a line. -/
def skipBlanks (s : List Char) : List Char :=
  s.dropWhile isBlank

/-- What follows a comment, if one begins. -/
def skipComment (s : List Char) : Except Fault (List Char) :=
  match s with
  | '#' :: r =>
    let rest := r.dropWhile isLineChar
    if rest.isEmpty || (newline? rest).isSome then .ok rest
    else .error (faultAt .badComment rest)
  | _ => .ok s

/-- What follows blanks, comments and line ends. -/
def skipGaps : (fuel : Nat) → List Char → Except Fault (List Char)
  | 0, s => .ok s
  | fuel + 1, s => do
    let r ← skipComment (skipBlanks s)
    match newline? r with
    | some t => skipGaps fuel t
    | none => .ok r

/-- What follows the rest of a line, in which only a comment may stand. -/
def finishLine (s : List Char) : Except Fault (List Char) := do
  let r ← skipComment (skipBlanks s)
  match r with
  | [] => .ok []
  | c :: t =>
    match newline? (c :: t) with
    | some u => .ok u
    | none => .error (faultBetween .trailing (c :: t) t)

/-! ### Keys -/

/-- A character of a key without quotes. -/
def isKeyChar (c : Char) : Bool :=
  c.isAlphanum || c == '_' || c == '-'

/-- A character that ends a key without quotes. -/
def endsKey (c : Char) : Bool :=
  isBlank c || ['\n', '\r', '.', '=', ',', '[', ']', '\x7b', '\x7d', '#', '"', '\''].contains c

/-- Reads one name of a key. -/
def readName (s : List Char) : Reading Label :=
  let label (name : String) (r : List Char) : Label × List Char :=
    (⟨name, ⟨s.length, r.length⟩, ⟨r.length, r.length⟩⟩, r)
  match s with
  -- A key stands on one line, so three quotes open none.
  | '"' :: '"' :: '"' :: _ => .error (faultAt .badKey s)
  | '\'' :: '\'' :: '\'' :: _ => .error (faultAt .badKey s)
  | _ =>
    match readString? s with
    | some reading => reading.map fun (name, r) => label name r
    | none =>
      let name := s.takeWhile (!endsKey ·)
      let rest := s.drop name.length
      if name = [] then .error (faultAt .emptyKey s)
      else match name.dropWhile isKeyChar with
        | [] => .ok (label (String.ofList name) rest)
        | bad =>
          let place := bad.length + rest.length
          .error ⟨.badKey, ⟨place, place - 1⟩⟩

/-- Reads a key: the names before its last one, and its last name. -/
def readKey : (fuel : Nat) → List Char → Except Fault ((List Label × Label) × List Char)
  | 0, s => .error (faultAt .emptyKey s)
  | fuel + 1, s => do
    let (label, r) ← readName (skipBlanks s)
    match skipBlanks r with
    | '.' :: t => do
      let ((path, last), u) ← readKey fuel t
      .ok ((label :: path, last), u)
    | t => .ok (([], label), t)

/-! ### Values -/

/-- The characters of a scalar without quotes; a blank belongs to it between a date and a
time. -/
def scalarText (s : List Char) : List Char :=
  let isPart (c : Char) : Bool := c == '.' || !endsKey c
  let part := s.takeWhile isPart
  match s.drop part.length with
  | ' ' :: c :: r =>
    -- A blank stands where a date is followed by a time.
    if date? part == some [] && c.isDigit then part ++ ' ' :: (c :: r).takeWhile isPart else part
  | _ => part

/-- Reads a scalar without quotes. -/
def readScalar (s : List Char) : Reading Value :=
  let text := scalarText s
  let rest := s.drop text.length
  match scalar? text with
  | some v => .ok (v, rest)
  | none =>
    let cause := if text.head?.any fun c => c.isDigit || c == '+' || c == '-' then Cause.badNumber
      else .unquotedValue
    .error (faultBetween cause s rest)

mutual

/-- Reads a value. -/
def readValue (fuel : Nat) (s : List Char) : Except Fault (Value × List Char) :=
  match fuel with
  | 0 => .error (faultAt .unquotedValue s)
  | fuel + 1 =>
    match s with
    | '[' :: r => do
      let (items, t) ← readItems fuel true r
      .ok (.array items, t)
    | '\x7b' :: r => do
      let (members, t) ← readMembers fuel true [] r
      .ok (.table .inline members, t)
    | _ =>
      match readString? s with
      | some reading => reading.map fun (text, r) => (.string text, r)
      | none => readScalar s

/-- Reads the items of an array up to its bracket: all of them, or those behind a first. -/
def readItems (fuel : Nat) (first : Bool) (s : List Char) :
    Except Fault (List Value × List Char) :=
  match fuel with
  | 0 => .error (faultAt .badArray s)
  | fuel + 1 => do
    let r ← skipGaps (s.length + 1) s
    match r with
    | ']' :: t => .ok ([], t)
    | _ =>
      if first then readItem fuel r
      else match r with
        | ',' :: t => do
          let u ← skipGaps (t.length + 1) t
          match u with
          | ']' :: v => .ok ([], v)
          | u => readItem fuel u
        | r => .error (faultAt .badArray r)

/-- Reads an item of an array and those behind it. -/
def readItem (fuel : Nat) (s : List Char) : Except Fault (List Value × List Char) :=
  match fuel with
  | 0 => .error (faultAt .badArray s)
  | fuel + 1 => do
    let (v, r) ← readValue fuel s
    let (vs, t) ← readItems fuel false r
    .ok (v :: vs, t)

/-- Reads the members of a table up to its brace, onto those read before. -/
def readMembers (fuel : Nat) (first : Bool) (table : Table) (s : List Char) :
    Except Fault (Table × List Char) :=
  match fuel with
  | 0 => .error (faultAt .badInlineTable s)
  | fuel + 1 => do
    let r ← skipGaps (s.length + 1) s
    match r with
    | '\x7d' :: t => .ok (table, t)
    | _ =>
      if first then readMember fuel table r
      else match r with
        | ',' :: t => do
          let u ← skipGaps (t.length + 1) t
          match u with
          | '\x7d' :: v => .ok (table, v)
          | u => readMember fuel table u
        | r => .error (faultAt .badInlineTable r)

/-- Reads a member of a table between braces and those behind it. -/
def readMember (fuel : Nat) (table : Table) (s : List Char) :
    Except Fault (Table × List Char) :=
  match fuel with
  | 0 => .error (faultAt .badInlineTable s)
  | fuel + 1 => do
    let ((path, label), r) ← readKey s.length s
    match r with
    | '=' :: t => do
      let start := skipBlanks t
      let (v, u) ← readValue fuel start
      let table ← addKey path { label with value := ⟨start.length, u.length⟩ } v table
      readMembers fuel false table u
    | r => .error (faultAt .noValue r)

end

/-! ### Lines -/

/-- The root table, with the path of the heading under which keys stand. -/
structure Document where
  root : Table
  heading : List Label

/-- The document with one more key under its heading. -/
def Document.add (d : Document) (path : List Label) (label : Label) (value : Value) :
    Except Fault Document :=
  (changeAt false (addKey path label value) d.heading d.root).map fun root =>
    { d with root := root }

/-- The document behind a heading. -/
def Document.open (d : Document) (entry : Bool) (path : List Label) (label : Label) :
    Except Fault Document :=
  (changeAt false (if entry then openEntry label else openTable label) path d.root).map fun root =>
    ⟨root, path ++ [label]⟩

/-- Reads a heading behind its brackets, and the brackets that close it. -/
def readHeading (d : Document) (entry : Bool) (start s : List Char) :
    Except Fault (Document × List Char) := do
  let ((path, label), r) ← readKey (s.length + 1) s
  let rest? := match entry, r with
    | true, ']' :: ']' :: t => some t
    | false, ']' :: t => some t
    | _, _ => none
  match rest? with
  | some t => do
    let d ← d.open entry path { label with value := ⟨start.length, t.length⟩ }
    .ok (d, ← finishLine t)
  | none => .error (faultAt .badHeading r)

/-- Reads a key and its value. -/
def readKeyValue (d : Document) (s : List Char) : Except Fault (Document × List Char) := do
  let ((path, label), r) ← readKey (s.length + 1) s
  match r with
  | '=' :: t => do
    let start := skipBlanks t
    let (v, u) ← readValue (2 * start.length + 2) start
    let d ← d.add path { label with value := ⟨start.length, u.length⟩ } v
    .ok (d, ← finishLine u)
  | r => .error (faultAt .noValue r)

/-- Reads lines to the end of the text. -/
def readLines : (fuel : Nat) → Document → List Char → Except Fault Document
  | 0, d, _ => .ok d
  | fuel + 1, d, s => do
    let r ← skipGaps (s.length + 1) s
    match r with
    | [] => .ok d
    | '[' :: '[' :: t => do
      let (d, u) ← readHeading d true r t
      readLines fuel d u
    | '[' :: t => do
      let (d, u) ← readHeading d false r t
      readLines fuel d u
    | r => do
      let (d, u) ← readKeyValue d r
      readLines fuel d u

/-- Reads a text as a table; a mark of the byte order may lead it. -/
def read (text : String) : Except Fault Table :=
  let cs := match text.toList with
    | '\ufeff' :: r => r
    | r => r
  (readLines (cs.length + 1) ⟨[], []⟩ cs).map (·.root)

end MockServer.Toml
