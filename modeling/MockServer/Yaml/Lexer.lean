/-
From a YAML text to its tokens.

The lexer keeps the indentations that are open and, for each level of brackets, the
place where a key may have begun without a question mark.  Only when the colon is met
is such a key known to be one; its token is then put in front of what was read since.
Such a key ends in the line in which it begins and has at most 1024 characters.

Design notes: the tokens are kept from last to first, with their number, so that a key
is put at its place by counting from the end.
-/
import MockServer.Yaml.BlockScalar
import MockServer.Yaml.PlainScalar
import MockServer.Yaml.Property

namespace MockServer.Yaml

/-- The place where a key may have begun: before which token, and in which line and column.
A required key is one without which the indentation would make no sense. -/
structure SimpleKey where
  required : Bool
  number : Nat
  index : Nat
  line : Nat
  column : Nat

/-- The state of the lexer. -/
structure Lexer where
  cursor : Cursor
  flow : Nat
  indent : Int
  indents : List Int
  keyAllowed : Bool
  keys : List (Option SimpleKey)
  reversed : List Token
  count : Nat

namespace Lexer

/-- The lexer at the beginning of a text. -/
def start (text : List Char) : Lexer :=
  ⟨.start text, 0, -1, [], true, [none], [], 0⟩

/-! ### Tokens and indentations -/

/-- Appends a token. -/
def emit (l : Lexer) (t : Token) : Lexer :=
  { l with reversed := t :: l.reversed, count := l.count + 1 }

/-- Puts a token before the one with a number. -/
def insertAt (l : Lexer) (number : Nat) (t : Token) : Lexer :=
  { l with
    reversed := l.reversed.take (l.count - number) ++ t :: l.reversed.drop (l.count - number)
    count := l.count + 1 }

/-- Appends a token and goes on behind some characters. -/
def emitPast (l : Lexer) (n : Nat) (t : Token) : Lexer :=
  { l.emit t with cursor := l.cursor.advance n }

/-- Opens a block collection at a column, where it is to the right of the open one. -/
def openBlock (l : Lexer) (column : Int) (t : Token) (number : Option Nat) : Lexer :=
  if l.flow = 0 && l.indent < column then
    let l := { l with indents := l.indent :: l.indents, indent := column }
    match number with
    | some n => l.insertAt n t
    | none => l.emit t
  else l

/-- Closes the block collections to the right of a column, from the innermost. -/
def closeBlocks (column : Int) : (indents : List Int) → Lexer → Lexer
  | [], l => l
  | outer :: indents, l =>
    if column < l.indent then
      closeBlocks column indents { l.emit .blockEnd with indent := outer, indents := indents }
    else l

/-- Closes the block collections to the right of a column, outside brackets. -/
def unroll (l : Lexer) (column : Int) : Lexer :=
  if l.flow = 0 then closeBlocks column l.indents l else l

/-! ### Keys without a question mark -/

/-- Gives up the key that may have begun on this level of brackets; a required one may not
be given up. -/
def dropKey (l : Lexer) : Option Lexer :=
  match l.keys with
  | some key :: keys => if key.required then none else some { l with keys := none :: keys }
  | _ => some l

/-- Notes that a key may begin here. -/
def noteKey (l : Lexer) : Option Lexer :=
  if l.keyAllowed then do
    let l ← l.dropKey
    let key : SimpleKey := ⟨l.flow = 0 && l.indent == (l.cursor.column : Int), l.count,
      l.cursor.index, l.cursor.line, l.cursor.column⟩
    some { l with keys := some key :: l.keys.drop 1 }
  else some l

/-- Can the key no longer end? -/
def isStale (l : Lexer) (key : SimpleKey) : Bool :=
  key.line < l.cursor.line || key.index + 1024 < l.cursor.index

/-- Gives up the keys that can no longer end. -/
def dropStale (l : Lexer) : Option Lexer :=
  if l.keys.any fun k => k.any fun key => l.isStale key && key.required then none
  else some { l with keys := l.keys.map fun k => k.filter fun key => !l.isStale key }

/-! ### Between tokens -/

/-- Passes blanks, comments and line ends.  A tab counts as a blank inside brackets, and
where no key may begin. -/
def passGaps : (fuel : Nat) → Lexer → Lexer
  | 0, l => l
  | fuel + 1, l =>
    -- A mark of the byte order may open every line.
    let c := if l.cursor.column = 0 && l.cursor.at? '\ufeff' then l.cursor.step else l.cursor
    let tabs := decide (0 < l.flow) || !l.keyAllowed
    let c := c.skip fun x => x == ' ' || (tabs && x == '\t')
    let c := if c.at? '#' then c.skip (!isBreak ·) else c
    if c.sees isBreak then
      passGaps fuel { l with cursor := c.step, keyAllowed := l.keyAllowed || l.flow = 0 }
    else { l with cursor := c }

/-! ### Tokens by their first character -/

/-- A mark between documents. -/
def documentMark (l : Lexer) (t : Token) : Option Lexer := do
  let l ← (l.unroll (-1)).dropKey
  some { l.emitPast 3 t with keyAllowed := false }

/-- A directive. -/
def directive (l : Lexer) : Option Lexer := do
  let l ← (l.unroll (-1)).dropKey
  let (t, c) ← readDirective (l.cursor.advance 1)
  some { l.emit t with cursor := c, keyAllowed := false }

/-- An opening bracket. -/
def openFlow (l : Lexer) (t : Token) : Option Lexer := do
  let l ← l.noteKey
  some { l.emitPast 1 t with keys := none :: l.keys, flow := l.flow + 1, keyAllowed := true }

/-- A closing bracket. -/
def closeFlow (l : Lexer) (t : Token) : Option Lexer := do
  let l ← l.dropKey
  let keys := if l.flow = 0 then l.keys else l.keys.drop 1
  some { l.emitPast 1 t with keys := keys, flow := l.flow - 1, keyAllowed := false }

/-- A comma. -/
def comma (l : Lexer) : Option Lexer := do
  let l ← l.dropKey
  some { l.emitPast 1 .comma with keyAllowed := true }

/-- A hyphen that begins an entry. -/
def entry (l : Lexer) : Option Lexer := do
  if l.flow = 0 && !l.keyAllowed then none
  else
    let l ← (l.openBlock l.cursor.column .blockSequence none).dropKey
    some { l.emitPast 1 .entry with keyAllowed := true }

/-- A question mark that begins a key. -/
def key (l : Lexer) : Option Lexer := do
  if l.flow = 0 && !l.keyAllowed then none
  else
    let l ← (l.openBlock l.cursor.column .blockMapping none).dropKey
    some { l.emitPast 1 .key with keyAllowed := l.flow = 0 }

/-- A colon that begins a value. -/
def value (l : Lexer) : Option Lexer :=
  match l.keys with
  | some k :: keys =>
    -- The key began before the colon told that it is one: both tokens go in front of it.
    let l := (l.insertAt k.number .key).openBlock k.column .blockMapping (some k.number)
    some { l.emitPast 1 .value with keys := none :: keys, keyAllowed := false }
  | _ =>
    if l.flow = 0 && !l.keyAllowed then none
    else
      let l := l.openBlock l.cursor.column .blockMapping none
      some { l.emitPast 1 .value with keyAllowed := l.flow = 0 }

/-- A token that may begin a key, with what follows it. -/
def content (l : Lexer) (read : Cursor → Option (Token × Cursor)) : Option Lexer := do
  let l ← l.noteKey
  let (t, c) ← read l.cursor
  some { l.emit t with cursor := c, keyAllowed := false }

/-- A scalar in a block. -/
def blockScalar (l : Lexer) (literal : Bool) : Option Lexer := do
  let l ← l.dropKey
  let (text, c) ← readBlock literal l.indent (l.cursor.advance 1)
  some { l.emit (.scalar false (String.ofList text)) with cursor := c, keyAllowed := true }

/-- A scalar in quotes. -/
def quoted (l : Lexer) (single : Bool) : Option Lexer :=
  l.content fun c => do
    let (text, d) ← readQuoted single (c.rest.length + 1) [] (c.advance 1)
    some (.scalar false (String.ofList text), d)

/-- A scalar without quotes. -/
def plain (l : Lexer) : Option Lexer := do
  let l ← l.noteKey
  let (text, broken, c) ←
    readPlain (decide (0 < l.flow)) (l.indent + 1) (l.cursor.rest.length + 1) [] .none l.cursor
  some { l.emit (.scalar true (String.ofList text)) with cursor := c, keyAllowed := broken }

/-- A character with which no plain scalar begins. -/
def isIndicator (c : Char) : Bool :=
  ['-', '?', ':', ',', '[', ']', '\x7b', '\x7d', '#', '&', '*', '!', '|', '>', '\'', '"', '%',
    '@', '\x60'].contains c

/-- May a plain scalar begin here? -/
def startsPlain (l : Lexer) : Bool :=
  let c := l.cursor
  (!c.atGap && !c.sees isIndicator) || (c.at? '-' && !c.step.sees isBlank)
    || (l.flow = 0 && (c.at? '?' || c.at? ':') && !c.step.atGap)

/-- Reads the next token; `done` where the text ends. -/
def next (l : Lexer) : Option Lexer :=
  let c := l.cursor
  let inFlow := decide (0 < l.flow)
  let gapNext := c.step.atGap
  -- Directives and the marks between documents stand at the beginning of a line.
  if c.column = 0 && c.at? '%' then l.directive
  else if c.atMark '-' then l.documentMark .documentStart
  else if c.atMark '.' then l.documentMark .documentEnd
  else if c.at? '[' then l.openFlow .flowSequence
  else if c.at? '\x7b' then l.openFlow .flowMapping
  else if c.at? ']' then l.closeFlow .flowSequenceEnd
  else if c.at? '\x7d' then l.closeFlow .flowMappingEnd
  else if c.at? ',' then l.comma
  -- In front of anything else these three signs belong to a plain scalar.
  else if c.at? '-' && gapNext then l.entry
  else if c.at? '?' && (inFlow || gapNext) then l.key
  else if c.at? ':' && (inFlow || gapNext) then l.value
  else if c.at? '*' then l.content fun c => (readName c.step).map fun (n, d) => (.alias n, d)
  else if c.at? '&' then l.content fun c => (readName c.step).map fun (n, d) => (.anchor n, d)
  else if c.at? '!' then l.content (readTag inFlow)
  -- There are no blocks inside brackets.
  else if c.at? '|' && !inFlow then l.blockScalar true
  else if c.at? '>' && !inFlow then l.blockScalar false
  else if c.at? '\'' then l.quoted true
  else if c.at? '"' then l.quoted false
  else if l.startsPlain then l.plain
  else none

/-- Reads tokens to the end of the text. -/
def run : (fuel : Nat) → Lexer → Option (List Token)
  | 0, _ => none
  | fuel + 1, l => do
    let l ← (l.passGaps (l.cursor.rest.length + 1)).dropStale
    -- The column of the next token closes the blocks to its right; the end of the text closes all.
    let l := l.unroll l.cursor.column
    if l.cursor.atEnd then
      let l ← (l.unroll (-1)).dropKey
      some l.reversed.reverse
    else
      let l ← l.next
      run fuel l

end Lexer

/-- The tokens of a text; `none` where it has none. -/
def Token.scan (text : List Char) : Option (List Token) :=
  let text := match text with
    | '\ufeff' :: r => r
    | r => r
  if text.all isAllowed then (Lexer.start text).run (text.length + 1) else none

end MockServer.Yaml
