/-
Blanks and line ends inside scalars.

Between two words of a scalar stands a gap.  Inside a line its blanks are kept; a
single line end becomes a blank, and of several line ends all but the first are kept.
Main statement: `text_one_break` — one line end is one blank.
-/
import MockServer.Yaml.Cursor

namespace MockServer.Yaml

/-- What stands between two words: blanks, or a first line end and further ones. -/
structure Gap where
  blanks : List Char
  broken : Bool
  first : List Char
  more : List Char

namespace Gap

/-- Nothing between two words. -/
def none : Gap :=
  ⟨[], false, [], []⟩

/-- A line end that was escaped: blanks at the beginning of the next line are dropped. -/
def escaped : Gap :=
  ⟨[], true, [], []⟩

/-- What a gap leaves in the text of a scalar. -/
def text (g : Gap) : List Char :=
  if g.broken then
    if g.first = ['\n'] then if g.more = [] then [' '] else g.more
    else g.first ++ g.more
  else g.blanks

/-- The gap with one more line end. -/
def addBreak (g : Gap) (lineEnd : List Char) : Gap :=
  if g.broken then { g with more := g.more ++ lineEnd } else ⟨[], true, lineEnd, g.more⟩

/-- The gap with one more blank; at the beginning of a line it is dropped. -/
def addBlank (g : Gap) (c : Char) : Gap :=
  if g.broken then g else { g with blanks := g.blanks ++ [c] }

/-- Reads a gap; `none` where a tab stands to the left of column `margin` of a new line. -/
def read (margin : Int) : (fuel : Nat) → Gap → Cursor → Option (Gap × Cursor)
  | 0, g, c => some (g, c)
  | fuel + 1, g, c =>
    match c.rest with
    | [] => some (g, c)
    | x :: _ =>
      if isBlank x then
        if g.broken && x == '\t' && decide ((c.column : Int) < margin) then Option.none
        else read margin fuel (g.addBlank x) c.step
      else if isBreak x then read margin fuel (g.addBreak c.breakText) c.step
      else some (g, c)

/-- One line end is one blank. -/
theorem text_one_break : (Gap.none.addBreak ['\n']).text = [' '] := rfl

end Gap
end MockServer.Yaml
