/-
Scalars without quotes.

A plain scalar ends before a comment, before a colon that is followed by a gap, at the
indentation of its parent and, inside brackets, before a bracket or a comma.
-/
import MockServer.Yaml.Folding

namespace MockServer.Yaml

/-- A bracket or comma, which ends a plain scalar inside brackets. -/
def isFlowIndicator (c : Char) : Bool :=
  c == ',' || c == '[' || c == ']' || c == '\x7b' || c == '\x7d'

/-- Does a plain scalar end here inside a word? -/
def Cursor.endsPlain (inFlow : Bool) (c : Cursor) : Bool :=
  (c.at? ':' && c.step.atGap) || (inFlow && c.sees isFlowIndicator)

/-- Does a colon stand here that may not, directly before a bracket, a comma or a question
mark? -/
def Cursor.hasBadColon (inFlow : Bool) (c : Cursor) : Bool :=
  inFlow && c.at? ':' && c.step.sees fun x => isFlowIndicator x || x == '?'

/-- Reads a word up to a gap or the end of the scalar. -/
def readWord (inFlow : Bool) : (fuel : Nat) → List Char → Cursor → Option (List Char × Cursor)
  | 0, word, c => some (word, c)
  | fuel + 1, word, c =>
    if c.atGap then some (word, c)
    else if c.hasBadColon inFlow then none
    else if c.endsPlain inFlow then some (word, c)
    else readWord inFlow fuel (word ++ c.rest.take 1) c.step

/-- Reads a plain scalar: its text, whether a line end was passed last, and what follows. -/
def readPlain (inFlow : Bool) (margin : Int) :
    (fuel : Nat) → List Char → Gap → Cursor → Option (List Char × Bool × Cursor)
  | 0, text, gap, c => some (text, gap.broken, c)
  | fuel + 1, text, gap, c =>
    if c.atDocumentMark || c.at? '#' then some (text, gap.broken, c)
    else do
      let (word, d) ← readWord inFlow c.rest.length [] c
      -- The gap counts only if a word follows it.
      let (text, gap) := if word = [] then (text, gap) else (text ++ gap.text ++ word, Gap.none)
      if d.sees fun x => isBlank x || isBreak x then
        let (gap, e) ← Gap.read margin d.rest.length gap d
        if !inFlow && decide ((e.column : Int) < margin) then some (text, gap.broken, e)
        else readPlain inFlow margin fuel text gap e
      else some (text, gap.broken, d)

end MockServer.Yaml
