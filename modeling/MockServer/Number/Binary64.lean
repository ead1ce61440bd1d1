/-
Finite binary64 numbers, exactly.

A `Binary64` is a sign, a mantissa and an exponent in the one normal form of the
format, so equality of values is equality of fields up to the sign of zero.
`ofRatio` rounds an exact quotient to the nearest number, a tie going to the even
mantissa; products and quotients are exact quotients rounded once.  Main
statements:

* `pack?_eq_some_iff` — packing succeeds exactly on normal forms;
* `nearestEven_mul` — a whole quotient is its own rounding.

Design notes: all arithmetic is on natural numbers, and `none` stands for a result
too large for the format.
-/
import MockServer.Number.Power

namespace MockServer.Number

/-- The normal form: a full mantissa, or the least exponent. -/
def IsNormalForm (mantissa : Nat) (exponent : Int) : Prop :=
  mantissa < 0x20000000000000 ∧ -1074 ≤ exponent ∧ exponent ≤ 971
    ∧ (0x10000000000000 ≤ mantissa ∨ exponent = -1074)

instance (mantissa : Nat) (exponent : Int) : Decidable (IsNormalForm mantissa exponent) := by
  unfold IsNormalForm
  infer_instance

/-- A finite binary64 number: `mantissa * 2 ^ exponent` with a sign. -/
structure Binary64 where
  negative : Bool
  mantissa : Nat
  exponent : Int
  normal : IsNormalForm mantissa exponent
  deriving DecidableEq

namespace Binary64

/-- The exact value. -/
def value (x : Binary64) : Rat :=
  (if x.negative then -1 else 1) * (x.mantissa : Rat) * (2 : Rat) ^ x.exponent

/-- Zero of either sign. -/
def zero (negative : Bool) : Binary64 :=
  ⟨negative, 0, -1074, by decide⟩

def isZero (x : Binary64) : Bool :=
  x.mantissa == 0

/-- The same magnitude with the other sign. -/
def neg (x : Binary64) : Binary64 :=
  { x with negative := !x.negative }

/-- A number from its fields, where they are in normal form. -/
def pack? (negative : Bool) (mantissa : Nat) (exponent : Int) : Option Binary64 :=
  if h : IsNormalForm mantissa exponent then some ⟨negative, mantissa, exponent, h⟩ else none

/-! ### Rounding -/

/-- The integer nearest to `num / den`, a tie going to the even one. -/
def nearestEven (num den : Nat) : Nat :=
  let q := num / den
  let r := num % den
  if 2 * r < den then q
  else if den < 2 * r then q + 1
  else q + q % 2

/-- `num / den * 2 ^ shift` as a quotient of naturals. -/
def scale (num den : Nat) (shift : Int) : Nat × Nat :=
  if 0 ≤ shift then (num * twoTo shift.toNat, den) else (num, den * twoTo (-shift).toNat)

/-- The exponent of the greatest power of two that is at most `num / den`. -/
def ratioLog2 (num den : Nat) : Int :=
  let k : Int := num.log2 - den.log2
  let (n, d) := scale num den (-k)
  if d ≤ n then k else k - 1

/-- The number nearest to `num / den`; `none` where that is too large. -/
def ofRatio (negative : Bool) (num den : Nat) : Option Binary64 :=
  if num = 0 then some (zero negative)
  else
    let exponent := max (ratioLog2 num den - 52) (-1074)
    let (n, d) := scale num den (-exponent)
    let mantissa := nearestEven n d
    -- Rounding up may reach the next power of two.
    if mantissa = 0x20000000000000 then pack? negative 0x10000000000000 (exponent + 1)
    else pack? negative mantissa exponent

/-- The number nearest to a natural number. -/
def ofNat (n : Nat) : Option Binary64 :=
  ofRatio false n 1

/-- The product, rounded once. -/
def mul (x y : Binary64) : Option Binary64 :=
  let (n, d) := scale (x.mantissa * y.mantissa) 1 (x.exponent + y.exponent)
  ofRatio (x.negative != y.negative) n d

/-- The quotient, rounded once; `none` for a divisor of zero. -/
def div (x y : Binary64) : Option Binary64 :=
  if y.mantissa = 0 then none
  else
    let (n, d) := scale x.mantissa y.mantissa (x.exponent - y.exponent)
    ofRatio (x.negative != y.negative) n d

/-- The number nearest to `digits * 10 ^ exponent`.  Powers of ten outside the format's
range are decided without being computed. -/
def ofDecimal (negative : Bool) (digits : Nat) (exponent : Int) : Option Binary64 :=
  let count : Int := (Nat.toDigits 10 digits).length
  if digits = 0 then some (zero negative)
  else if 310 < count + exponent then none
  else if count + exponent < -330 then some (zero negative)
  else if 0 ≤ exponent then ofRatio negative (digits * tenTo exponent.toNat) 1
  else ofRatio negative digits (tenTo (-exponent).toNat)

/-! ### Whole numbers -/

/-- The magnitude with its fraction dropped. -/
def truncated (x : Binary64) : Nat :=
  if 0 ≤ x.exponent then x.mantissa * twoTo x.exponent.toNat
  else x.mantissa / twoTo (-x.exponent).toNat

/-- A number without a fraction. -/
def isWhole (x : Binary64) : Bool :=
  0 ≤ x.exponent || x.mantissa % twoTo (-x.exponent).toNat == 0

/-- The magnitude with its fraction dropped, with its sign. -/
def toInt (x : Binary64) : Int :=
  if x.negative then -(x.truncated : Int) else x.truncated

/-! ### Laws -/

theorem pack?_eq_some_iff {negative : Bool} {mantissa : Nat} {exponent : Int} {x : Binary64} :
    pack? negative mantissa exponent = some x ↔
      x.negative = negative ∧ x.mantissa = mantissa ∧ x.exponent = exponent := by
  unfold pack?
  constructor
  · intro h
    split at h
    · cases h
      exact ⟨rfl, rfl, rfl⟩
    · cases h
  · rintro ⟨rfl, rfl, rfl⟩
    rw [dif_pos x.normal]

theorem nearestEven_mul (n : Nat) {den : Nat} (h : 0 < den) : nearestEven (n * den) den = n := by
  unfold nearestEven
  rw [Nat.mul_mod_left, Nat.mul_div_cancel n h]
  simp [h]

end Binary64
end MockServer.Number
