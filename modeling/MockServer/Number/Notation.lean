/-
How a binary64 number is written.

A `Notation` says which decimal exponents are written positionally; all others are
written with an exponent, whose sign is always shown.  A positional numeral always
has a point.  `json` is the notation of JSON texts and `plain` never uses an
exponent.
-/
import MockServer.Number.Digits
import MockServer.Number.Shortest

namespace MockServer.Number

/-- The choice between positional notation and notation with an exponent, by the
exponent of the first digit. -/
structure Notation where
  positional : Int → Bool

namespace Notation

/-- Positional from a hundred-thousandth up to sixteen digits before the point. -/
def json : Notation :=
  ⟨fun e => -5 ≤ e && e < 16⟩

/-- Positional always. -/
def plain : Notation :=
  ⟨fun _ => true⟩

end Notation

/-- Digits with a point placed by the exponent, and at least one digit on either side. -/
def positionalText (d : Decimal) : List Char :=
  let ds := digits d.digits
  if 0 ≤ d.exponent then ds ++ List.replicate d.exponent.toNat '0' ++ ['.', '0']
  else
    let places := (-d.exponent).toNat
    if places < ds.length then
      ds.take (ds.length - places) ++ '.' :: ds.drop (ds.length - places)
    else '0' :: '.' :: List.replicate (places - ds.length) '0' ++ ds

/-- One digit, the others behind a point, and the exponent with its sign. -/
def exponentText (d : Decimal) : List Char :=
  let ds := digits d.digits
  let sign := if d.leading < 0 then '-' else '+'
  ds.take 1 ++ (if ds.length = 1 then [] else '.' :: ds.drop 1)
    ++ 'e' :: sign :: digits d.leading.natAbs

/-- The text of a number in a notation. -/
def Binary64.text (style : Notation) (x : Binary64) : List Char :=
  let d := x.shortest
  let body := if style.positional d.leading then positionalText d else exponentText d
  if x.negative then '-' :: body else body

end MockServer.Number
