/-
Sums in scripts.

Numbers and names are joined by the usual signs.  The strength of a sign says how closely it
binds.

This stands for the machine's shell, on which tools are started; the program has no such code.
-/
import MockServer.Number.Digits
import MockServer.Text.Ascii

namespace MockServer.Shell.Arithmetic

/-- The signs between two values with their strengths. -/
def signs : List (Char × Nat × (Int → Int → Int)) :=
  [('+', 1, (· + ·)), ('-', 1, (· - ·)), ('*', 2, (· * ·)), ('/', 2, Int.tdiv),
    ('%', 2, Int.tmod)]

/-- Passes over blanks. -/
def skip (s : List Char) : List Char :=
  s.dropWhile fun c => c = ' ' || c = '\t' || c = '\n'

/-- The number that a text is. -/
def integer? (s : List Char) : Option Int :=
  let (negative, digits) := match s with
    | '-' :: digits => (true, digits)
    | '+' :: digits => (false, digits)
    | digits => (false, digits)
  if digits ≠ [] && digits.all Char.isDigit then
    some (if negative then -(Number.number digits : Int) else Number.number digits)
  else none

mutual

/-- Reads a value without signs between. -/
def operand (value : String → Int) : (fuel : Nat) → List Char → Option (Int × List Char)
  | 0, _ => none
  | fuel + 1, s =>
    match skip s with
    | '(' :: rest => do
      let (v, behind) ← expression value fuel 1 rest
      match skip behind with
      | ')' :: more => some (v, more)
      | _ => none
    | '-' :: rest => (operand value fuel rest).map fun (v, behind) => (-v, behind)
    | c :: rest =>
      let isWord (c : Char) : Bool := Text.isAsciiAlphanumeric c || c = '_'
      if c.isDigit then
        some (Number.number ((c :: rest).takeWhile Char.isDigit),
          (c :: rest).dropWhile Char.isDigit)
      else if isWord c then
        some (value (String.ofList ((c :: rest).takeWhile isWord)), (c :: rest).dropWhile isWord)
      else none
    | [] => none

/-- Reads a value with signs of at least a strength between. -/
def expression (value : String → Int) :
    (fuel : Nat) → (strength : Nat) → List Char → Option (Int × List Char)
  | 0, _, _ => none
  | fuel + 1, strength, s =>
    match operand value fuel s with
    | some (v, rest) => more value fuel strength v rest
    | none => none

/-- Goes on with the signs behind a value. -/
def more (value : String → Int) :
    (fuel : Nat) → (strength : Nat) → Int → List Char → Option (Int × List Char)
  | 0, _, _, _ => none
  | fuel + 1, strength, v, s =>
    match skip s with
    | [] => some (v, s)
    | c :: behind =>
      match signs.find? (·.1 = c) with
      | none => some (v, s)
      | some (_, own, join) =>
        if own < strength then some (v, s)
        else do
          -- Signs of one strength are joined from the left: the right side takes stronger ones.
          let (w, rest) ← expression value fuel (own + 1) behind
          if w = 0 && (c = '/' || c = '%') then none
          else more value fuel strength (join v w) rest

end

/-- The value of a sum, where names have values. -/
def evaluate? (value : String → Int) (s : List Char) : Option Int :=
  if skip s = [] then some 0
  else match expression value (4 * s.length + 4) 1 s with
    | some (v, rest) => if skip rest = [] then some v else none
    | none => none

end MockServer.Shell.Arithmetic
