/-
Scalars in blocks.

A literal block keeps its line ends; a folded block joins lines by blanks, except where
a line begins with a blank.  The heading may fix the indentation and say what becomes of
the line ends at the end of the block.
-/
import MockServer.Yaml.Cursor

namespace MockServer.Yaml

/-- What becomes of the line ends at the end of a block. -/
inductive Chomping where
  | strip
  | clip
  | keep
  deriving DecidableEq, Repr

/-- The heading of a block: what becomes of its end, and its own indentation if given. -/
structure BlockHeading where
  chomping : Chomping
  indent : Option Nat

/-- The sign of a heading. -/
def chomping? : Char → Option Chomping
  | '+' => some .keep
  | '-' => some .strip
  | _ => none

/-- Reads the indentation of a heading, a digit from one to nine. -/
def readIndent (c : Cursor) : Option (Option Nat × Cursor) :=
  match c.rest with
  | [] => some (none, c)
  | x :: _ =>
    if x.isDigit then if x = '0' then none else some (some (x.toNat - 48), c.step)
    else some (none, c)

/-- Reads the sign of a heading. -/
def readChomping (c : Cursor) : Option Chomping × Cursor :=
  match c.rest.head?.bind chomping? with
  | some sign => (some sign, c.step)
  | none => (none, c)

/-- Reads the sign and the indentation of a heading in either order, and the rest of its
line. -/
def readHeading (c : Cursor) : Option (BlockHeading × Cursor) := do
  let (early, c) := readChomping c
  let (indent, c) ← readIndent c
  let (late, c) := if early.isNone && indent.isSome then readChomping c else (none, c)
  let c ← c.finishLine?
  some (⟨(early.or late).getD .clip, indent⟩, c)

/-- Passes empty lines and the indentation of the next line: the line ends passed, the
greatest column reached, and what follows.  A known indentation is not passed over, and no
tab may stand inside it. -/
def readEmptyLines (indent : Option Nat) :
    (fuel : Nat) → (breaks : List Char) → (widest : Nat) → Cursor →
      Option (List Char × Nat × Cursor)
  | 0, breaks, widest, c => some (breaks, widest, c)
  | fuel + 1, breaks, widest, c =>
    let spaces := (c.rest.takeWhile (· == ' ')).length
    let d := c.steps (match indent with
      | some n => min spaces (n - c.column)
      | none => spaces)
    let widest := max widest d.column
    let inIndent : Bool := match indent with
      | some n => decide (d.column < n)
      | none => true
    if inIndent && d.at? '\t' then none
    else if d.sees isBreak then readEmptyLines indent fuel (breaks ++ d.breakText) widest d.step
    else some (breaks, widest, d)

/-- Whether the line end before a line is folded, in a folded block: neither the line before
nor this one begins with a blank. -/
def isFolded (literal : Bool) (lineEnd : List Char) (blankBefore blankNow : Bool) : Bool :=
  !literal && lineEnd.head? == some '\n' && !blankBefore && !blankNow

/-- What stands between two lines of a block. -/
def between (literal : Bool) (lineEnd more : List Char) (blankBefore blankNow : Bool) :
    List Char :=
  if isFolded literal lineEnd blankBefore blankNow then
    if more = [] then [' '] else more
  else lineEnd ++ more

/-- Reads the lines of a block: its text, the last line end, the line ends behind it, and
what follows. -/
def readLines (literal : Bool) (indent : Nat) :
    (fuel : Nat) → (text lineEnd more : List Char) → (blankBefore : Bool) → Cursor →
      Option (List Char × List Char × List Char × Cursor)
  | 0, text, lineEnd, more, _, c => some (text, lineEnd, more, c)
  | fuel + 1, text, lineEnd, more, blankBefore, c =>
    if c.column == indent && !c.atEnd then do
      let blankNow := c.sees isBlank
      let (line, d) := c.span (!isBreak ·)
      let (breaks, _, e) ← readEmptyLines (some indent) d.rest.length [] 0 d.step
      readLines literal indent fuel
        (text ++ between literal lineEnd more blankBefore blankNow ++ line)
        d.breakText breaks blankNow e
    else some (text, lineEnd, more, c)

/-- Reads a block behind its sign, under a parent of an indentation. -/
def readBlock (literal : Bool) (parent : Int) (c : Cursor) : Option (List Char × Cursor) := do
  let (heading, c) ← readHeading c
  let fixed := heading.indent.map fun n => (max parent 0).toNat + n
  let (breaks, widest, c) ← readEmptyLines fixed c.rest.length [] 0 c
  -- A block that fixes no indentation has that of its first line, but one more than its parent.
  let indent := fixed.getD (max widest (max (parent + 1) 1).toNat)
  let (text, lineEnd, more, c) ← readLines literal indent (c.rest.length + 1) [] [] breaks false c
  match heading.chomping with
  | .strip => some (text, c)
  | .clip => some (text ++ lineEnd, c)
  | .keep => some (text ++ lineEnd ++ more, c)

end MockServer.Yaml
