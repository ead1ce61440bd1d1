/-
The fewest decimal digits that read back.

`shortest x` is the decimal with the fewest digits among those that round to `x`;
of two with equally few it is the nearer one, and of two equally near the one with
an even last digit.  The search walks the decimal grids from coarse to fine: on
each grid only the two neighbours of the value can round to it.

Design notes: bounds and candidates are compared as whole multiples of a quarter
of a unit in the last place, so no fraction is formed.
-/
import MockServer.Number.Binary64

namespace MockServer.Number

/-- The decimal `digits * 10 ^ exponent`. -/
structure Decimal where
  digits : Nat
  exponent : Int
  deriving DecidableEq, Repr

namespace Decimal

/-- Drops zeros at the end of the digits, at most `fuel` of them. -/
def dropZeros : (fuel : Nat) → Decimal → Decimal
  | 0, d => d
  | fuel + 1, d =>
    if d.digits % 10 = 0 then dropZeros fuel ⟨d.digits / 10, d.exponent + 1⟩ else d

/-- The exponent of the first digit. -/
def leading (d : Decimal) : Int :=
  d.exponent + (Nat.toDigits 10 d.digits).length - 1

end Decimal

namespace Binary64

/-- The interval of the reals that round to a number, with its middle, in quarters of a
unit in the last place: low end, middle, high end, and whether the ends belong to it. -/
structure Span where
  low : Nat
  mid : Nat
  high : Nat
  closed : Bool

/-- The rounding interval of a positive number. -/
def span (x : Binary64) : Span :=
  -- Below a power of two the neighbour is only half as far away.
  let low := if x.mantissa = 0x10000000000000 ∧ -1074 < x.exponent then 4 * x.mantissa - 1
    else 4 * x.mantissa - 2
  ⟨low, 4 * x.mantissa, 4 * x.mantissa + 2, x.mantissa % 2 == 0⟩

/-- Both sides of the comparison of `quarters * 2 ^ (exponent - 2)` with `n * 10 ^ grid`,
brought to whole numbers. -/
def sides (exponent grid : Int) (quarters n : Nat) : Nat × Nat :=
  let two := exponent - 2
  (quarters * twoTo two.toNat * tenTo (-grid).toNat, n * tenTo grid.toNat * twoTo (-two).toNat)

/-- Does `n * 10 ^ grid` round to `x`? -/
def reads (x : Binary64) (grid : Int) (n : Nat) : Bool :=
  let s := x.span
  let (low, at1) := sides x.exponent grid s.low n
  let (high, at2) := sides x.exponent grid s.high n
  if s.closed then low ≤ at1 && at2 ≤ high else low < at1 && at2 < high

/-- The point of the grid at or below `x`. -/
def floorOn (x : Binary64) (grid : Int) : Nat :=
  let (mid, unit) := sides x.exponent grid x.span.mid 1
  mid / unit

/-- The nearer of the two neighbours of `x` on the grid, a tie going to the even one. -/
def nearestOn (x : Binary64) (grid : Int) : Nat :=
  let (mid, unit) := sides x.exponent grid x.span.mid 1
  nearestEven mid unit

/-- The exponent of the first decimal digit of a positive number. -/
def log10 (x : Binary64) : Int :=
  -- Even the least positive number has digits left of this grid.
  (Nat.toDigits 10 (x.floorOn (-330))).length - 331

/-- The first grid from `grid` downwards, among `count` grids, with a neighbour of `x` that
reads back as `x`. -/
def shortestFrom (x : Binary64) : (count : Nat) → (grid : Int) → Decimal
  | 0, grid => ⟨x.nearestOn grid, grid⟩
  | count + 1, grid =>
    let below := x.floorOn grid
    match x.reads grid below, x.reads grid (below + 1) with
    | true, true => ⟨x.nearestOn grid, grid⟩
    | true, false => ⟨below, grid⟩
    | false, true => ⟨below + 1, grid⟩
    | false, false => shortestFrom x count (grid - 1)

/-- The fewest digits that read back as the magnitude of `x`. -/
def shortest (x : Binary64) : Decimal :=
  if x.isZero then ⟨0, 0⟩
  else (shortestFrom x 17 x.log10).dropZeros 400

end Binary64
end MockServer.Number
