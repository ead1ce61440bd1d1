/-
Reading decimal numerals.

`natural?` reads an optional plus sign and digits; `binary64?` reads a sign, digits
with an optional point and an optional exponent, and rounds once.  A numeral too
large for the format, and every text that is no numeral, gives `none`.
Main statements: `natural?_nil` and `natural?_plus` — a numeral has a digit.
-/
import MockServer.Number.Digits
import MockServer.Number.Binary64

namespace MockServer.Number

/-- Reads one or more digits after an optional plus sign. -/
def natural? (s : List Char) : Option Nat :=
  let body := match s with
    | '+' :: r => r
    | r => r
  if body ≠ [] ∧ body.all Char.isDigit then some (number body) else none

@[simp] theorem natural?_nil : natural? [] = none := rfl

@[simp] theorem natural?_plus : natural? ['+'] = none := rfl

/-- Splits off a leading sign: whether it was a minus, and the rest. -/
def splitSign : List Char → Bool × List Char
  | '-' :: r => (true, r)
  | '+' :: r => (false, r)
  | r => (false, r)

/-- Reads an exponent part: nothing, or a letter `e` with an integer. -/
def exponentPart? : List Char → Option Int
  | [] => some 0
  | c :: r =>
    if c = 'e' ∨ c = 'E' then
      let (negative, ds) := splitSign r
      if ds ≠ [] ∧ ds.all Char.isDigit then
        some (if negative then -(number ds : Int) else number ds)
      else none
    else none

/-- Reads a decimal numeral and rounds it once. -/
def binary64? (s : List Char) : Option Binary64 :=
  let (negative, body) := splitSign s
  let whole := body.takeWhile Char.isDigit
  let rest := body.dropWhile Char.isDigit
  let (fraction, tail) := match rest with
    | '.' :: r => (r.takeWhile Char.isDigit, r.dropWhile Char.isDigit)
    | r => ([], r)
  if whole = [] ∧ fraction = [] then none
  else
    match exponentPart? tail with
    -- The point moves behind the last digit.
    | some e => Binary64.ofDecimal negative (number (whole ++ fraction)) (e - fraction.length)
    | none => none

end MockServer.Number
