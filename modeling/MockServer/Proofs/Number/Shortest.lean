/-
The fewest digits of a number that is not zero.

The search for the fewest digits begins on the grid of the number's first digit, where
the number is at least one unit, and on finer grids it is only more.  So the digits that
are found are never all zeros.  Main statement: `digits_shortest_ne_zero`.
-/
import Mathlib.Tactic.Ring
import MockServer.Number.Shortest

namespace MockServer.Number

theorem twoTo_eq (n : Nat) : twoTo n = 2 ^ n := rfl

theorem tenTo_eq (n : Nat) : tenTo n = 10 ^ n := rfl

/-- A number that is not zero has at least as many digits as its numeral is long. -/
theorem pow_le_of_length_toDigits {n : Nat} (h : n ≠ 0) :
    10 ^ ((Nat.toDigits 10 n).length - 1) ≤ n := by
  by_cases hl : (Nat.toDigits 10 n).length - 1 = 0
  · rw [hl]
    omega
  · by_contra hn
    have := (Nat.length_toDigits_le_iff (b := 10) (by decide) (Nat.pos_of_ne_zero hl)).2
      (Nat.lt_of_not_le hn)
    omega

/-- A power of two is below a power of ten of a little less than a third of the exponent. -/
theorem two_pow_le_ten_pow {n m k : Nat} (hn : n ≤ 99 * k) (hm : 30 * k = m) :
    2 ^ n ≤ 10 ^ m :=
  calc 2 ^ n ≤ 2 ^ (99 * k) := Nat.pow_le_pow_right (by decide) hn
    _ = (2 ^ 99) ^ k := Nat.pow_mul ..
    _ ≤ (10 ^ 30) ^ k := Nat.pow_le_pow_left (by decide) k
    _ = 10 ^ m := by rw [← Nat.pow_mul, hm]

/-- Powers of ten on the two sides of a comparison are cancelled. -/
theorem ten_pow_mul_le_of_shift {a b n k : Nat} (h : 10 ^ n * b ≤ a * 10 ^ k) :
    10 ^ (n - k) * b ≤ a * 10 ^ (k - n) := by
  rcases Nat.le_total n k with hnk | hkn
  · rw [Nat.sub_eq_zero_of_le hnk, Nat.pow_zero, Nat.one_mul]
    refine Nat.le_of_mul_le_mul_left ?_ (Nat.pow_pos (n := n) (show 0 < 10 by decide))
    calc 10 ^ n * b ≤ a * 10 ^ k := h
      _ = a * 10 ^ (n + (k - n)) := by rw [Nat.add_sub_cancel' hnk]
      _ = 10 ^ n * (a * 10 ^ (k - n)) := by
          rw [Nat.pow_add]
          ring
  · rw [Nat.sub_eq_zero_of_le hkn, Nat.pow_zero, Nat.mul_one]
    refine Nat.le_of_mul_le_mul_left ?_ (Nat.pow_pos (n := k) (show 0 < 10 by decide))
    calc 10 ^ k * (10 ^ (n - k) * b) = 10 ^ (k + (n - k)) * b := by
          rw [Nat.pow_add, Nat.mul_assoc]
      _ = 10 ^ n * b := by rw [Nat.add_sub_cancel' hkn]
      _ ≤ a * 10 ^ k := h
      _ = 10 ^ k * a := Nat.mul_comm ..

namespace Decimal

theorem digits_dropZeros_ne_zero {d : Decimal} (h : d.digits ≠ 0) (fuel : Nat) :
    (d.dropZeros fuel).digits ≠ 0 := by
  induction fuel generalizing d with
  | zero => exact h
  | succ fuel ih =>
    rw [dropZeros]
    split
    · refine ih ?_
      show d.digits / 10 ≠ 0
      omega
    · exact h

end Decimal

namespace Binary64

/-- Rounding to a whole number does not go below the floor. -/
theorem le_nearestEven (num den : Nat) : num / den ≤ nearestEven num den := by
  simp only [nearestEven]
  split
  · exact Nat.le_refl _
  · split <;> omega

variable (x : Binary64)

/-- The number in quarters of its last place, times the powers that make it whole on a grid. -/
def scaledMid (grid : Int) : Nat :=
  4 * x.mantissa * 2 ^ (x.exponent - 2).toNat * 10 ^ (-grid).toNat

/-- One unit of a grid, times the same powers. -/
def scaledUnit (grid : Int) : Nat :=
  10 ^ grid.toNat * 2 ^ (2 - x.exponent).toNat

theorem floorOn_eq (grid : Int) : x.floorOn grid = x.scaledMid grid / x.scaledUnit grid := by
  have htwo : -(x.exponent - 2) = 2 - x.exponent := by omega
  simp only [floorOn, sides, span, scaledMid, scaledUnit, twoTo_eq, tenTo_eq, htwo, Nat.one_mul]

theorem scaledUnit_pos (grid : Int) : 0 < x.scaledUnit grid :=
  Nat.mul_pos (Nat.pow_pos (by decide)) (Nat.pow_pos (by decide))

/-- On a finer grid a number has at least as many units. -/
theorem one_le_floorOn_pred {grid : Int} (h : 1 ≤ x.floorOn grid) :
    1 ≤ x.floorOn (grid - 1) := by
  rw [floorOn_eq, Nat.le_div_iff_mul_le (x.scaledUnit_pos _), Nat.one_mul] at h ⊢
  by_cases hpos : 0 < grid
  · have hu : x.scaledUnit (grid - 1) ≤ x.scaledUnit grid :=
      Nat.mul_le_mul_right _ (Nat.pow_le_pow_right (by decide) (by omega))
    have hm : x.scaledMid (grid - 1) = x.scaledMid grid := by
      rw [scaledMid, scaledMid, show (-(grid - 1)).toNat = (-grid).toNat by omega]
    omega
  · have hu : x.scaledUnit (grid - 1) = x.scaledUnit grid := by
      rw [scaledUnit, scaledUnit, show (grid - 1).toNat = grid.toNat by omega]
    have hm : x.scaledMid grid ≤ x.scaledMid (grid - 1) :=
      Nat.mul_le_mul_left _ (Nat.pow_le_pow_right (by decide) (by omega))
    omega

theorem floorOn_le_nearestOn (grid : Int) : x.floorOn grid ≤ x.nearestOn grid :=
  le_nearestEven _ _

/-- A search that begins where the number is at least one unit finds digits. -/
theorem digits_shortestFrom_ne_zero (count : Nat) {grid : Int} (h : 1 ≤ x.floorOn grid) :
    (x.shortestFrom count grid).digits ≠ 0 := by
  have hnear := x.floorOn_le_nearestOn grid
  induction count generalizing grid with
  | zero =>
    show x.nearestOn grid ≠ 0
    omega
  | succ count ih =>
    rw [shortestFrom]
    split
    · show x.nearestOn grid ≠ 0
      omega
    · show x.floorOn grid ≠ 0
      omega
    · exact Nat.succ_ne_zero _
    · exact ih (x.one_le_floorOn_pred h) (x.floorOn_le_nearestOn _)

/-- Even the least number is more than one unit of the finest grid. -/
theorem one_le_floorOn_finest (h : x.mantissa ≠ 0) : 1 ≤ x.floorOn (-330) := by
  rw [floorOn_eq, Nat.le_div_iff_mul_le (x.scaledUnit_pos _), Nat.one_mul, scaledUnit, scaledMid]
  have hexp : (2 - x.exponent).toNat ≤ 1089 := by
    have := x.normal.2.1
    omega
  have hpow : 2 ^ (2 - x.exponent).toNat ≤ 10 ^ 330 := two_pow_le_ten_pow (k := 11) hexp rfl
  have hmid : 1 ≤ 4 * x.mantissa * 2 ^ (x.exponent - 2).toNat :=
    Nat.mul_pos (by omega) (Nat.pow_pos (by decide))
  rw [show (-330 : Int).toNat = 0 by rfl, show (-(-330) : Int).toNat = 330 by rfl, Nat.pow_zero]
  exact Nat.mul_le_mul hmid hpow

/-- On the grid of its first digit a number is at least one unit. -/
theorem one_le_floorOn_log10 (h : x.mantissa ≠ 0) : 1 ≤ x.floorOn x.log10 := by
  have hfine := x.one_le_floorOn_finest h
  set count := (Nat.toDigits 10 (x.floorOn (-330))).length with hcount
  have hlog : x.log10 = (count : Int) - 331 := rfl
  have hcount1 : 1 ≤ count := Nat.length_toDigits_pos
  -- The finest grid has as many digits as the numeral of its units is long.
  have hlow : 10 ^ (count - 1) * 2 ^ (2 - x.exponent).toNat ≤
      4 * x.mantissa * 2 ^ (x.exponent - 2).toNat * 10 ^ 330 := by
    have hle := pow_le_of_length_toDigits (show x.floorOn (-330) ≠ 0 by omega)
    rw [← hcount, floorOn_eq, Nat.le_div_iff_mul_le (x.scaledUnit_pos _), scaledUnit, scaledMid,
      show (-330 : Int).toNat = 0 by rfl, show (-(-330) : Int).toNat = 330 by rfl, Nat.pow_zero,
      Nat.one_mul] at hle
    exact hle
  rw [hlog, floorOn_eq, Nat.le_div_iff_mul_le (x.scaledUnit_pos _), Nat.one_mul, scaledUnit,
    scaledMid, show ((count : Int) - 331).toNat = count - 1 - 330 by omega,
    show (-((count : Int) - 331)).toNat = 330 - (count - 1) by omega]
  exact ten_pow_mul_le_of_shift hlow

/-- The fewest digits of a number that is not zero are not all zeros. -/
theorem digits_shortest_ne_zero (h : x.isZero = false) : x.shortest.digits ≠ 0 := by
  have hm : x.mantissa ≠ 0 := by simpa [isZero] using h
  rw [shortest, if_neg (by simp [h])]
  exact Decimal.digits_dropZeros_ne_zero
    (x.digits_shortestFrom_ne_zero 17 (x.one_le_floorOn_log10 hm)) 400

end Binary64
end MockServer.Number
