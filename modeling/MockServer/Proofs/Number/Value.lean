/-
The exact value of a JSON number.

A number stands for a rational number, whether it was written as an integer or as a binary64
number.  What is read from a binary64 number by dropping its fraction is told from that value.
Main statements:

* `floor_magnitude` — without the fraction a magnitude is its floor;
* `isWhole_iff` — a number has no fraction where its magnitude is that floor.
-/
import Mathlib.Data.Nat.Cast.Field
import Mathlib.Data.Rat.Floor
import MockServer.Json.Basic
import MockServer.Proofs.Number.Shortest

namespace MockServer

/-- The exact value of a JSON number. -/
def JsonNumber.value : JsonNumber → ℚ
  | .integer z _ => z
  | .double x => x.value

namespace Number

theorem cast_twoTo (n : ℕ) : (twoTo n : ℚ) = 2 ^ n := by
  rw [twoTo_eq, Nat.cast_pow, Nat.cast_ofNat]

namespace Binary64

variable (x : Binary64)

/-- The exact value without its sign. -/
def magnitude : ℚ :=
  (x.mantissa : ℚ) * 2 ^ x.exponent

theorem magnitude_nonneg : 0 ≤ x.magnitude :=
  mul_nonneg (Nat.cast_nonneg _) (zpow_nonneg (by norm_num) _)

theorem magnitude_eq_zero_iff : x.magnitude = 0 ↔ x.mantissa = 0 := by
  rw [magnitude, mul_eq_zero, Nat.cast_eq_zero, or_iff_left (zpow_ne_zero _ (by norm_num))]

theorem value_eq : x.value = if x.negative then -x.magnitude else x.magnitude := by
  rw [value, magnitude]
  split <;> ring

/-- A sign in front of zero does not make it negative. -/
theorem value_eq_magnitude (h : (x.negative && !x.isZero) = false) : x.value = x.magnitude := by
  rw [value_eq]
  split
  · rename_i hneg
    have hzero : x.mantissa = 0 := by simpa [hneg, isZero] using h
    rw [x.magnitude_eq_zero_iff.2 hzero, neg_zero]
  · rfl

theorem value_neg (h : (x.negative && !x.isZero) = true) : x.value < 0 := by
  rw [Bool.and_eq_true] at h
  have hne : x.magnitude ≠ 0 := by
    have hzero : x.mantissa ≠ 0 := by simpa [isZero] using h.2
    exact fun h0 => hzero (x.magnitude_eq_zero_iff.1 h0)
  rw [value_eq, if_pos h.1, neg_lt_zero]
  exact lt_of_le_of_ne x.magnitude_nonneg (Ne.symm hne)

/-! ### Fractions -/

/-- A magnitude is a whole number, or a whole number divided by a power of two. -/
theorem magnitude_of_nonneg (h : 0 ≤ x.exponent) :
    x.magnitude = ((x.mantissa * twoTo x.exponent.toNat : ℕ) : ℚ) := by
  obtain ⟨k, hk⟩ := Int.eq_ofNat_of_zero_le h
  rw [magnitude, hk, Int.toNat_natCast, zpow_natCast, Nat.cast_mul, cast_twoTo]

theorem magnitude_of_neg (h : ¬ 0 ≤ x.exponent) :
    x.magnitude = (x.mantissa : ℚ) / (twoTo (-x.exponent).toNat : ℕ) := by
  obtain ⟨k, hk⟩ := Int.eq_ofNat_of_zero_le (show 0 ≤ -x.exponent by omega)
  rw [magnitude, hk, Int.toNat_natCast, cast_twoTo, ← zpow_natCast, ← hk, zpow_neg, div_inv_eq_mul]

/-- Without its fraction a magnitude is its floor. -/
theorem floor_magnitude : ⌊x.magnitude⌋ = (x.truncated : ℤ) := by
  rw [truncated]
  split
  · rename_i h
    rw [x.magnitude_of_nonneg h, Int.floor_natCast]
  · rename_i h
    rw [x.magnitude_of_neg h, Rat.floor_natCast_div_natCast, Int.natCast_div]

/-- A number has no fraction where its magnitude is its floor. -/
theorem isWhole_iff : x.isWhole = true ↔ x.magnitude = x.truncated := by
  rw [isWhole, truncated, Bool.or_eq_true, decide_eq_true_eq, beq_iff_eq]
  split
  · rename_i h
    rw [x.magnitude_of_nonneg h]
    simp [h]
  · rename_i h
    have hpos : (twoTo (-x.exponent).toNat : ℚ) ≠ 0 :=
      Nat.cast_ne_zero.2 (Nat.ne_of_gt (twoTo_pos _))
    rw [x.magnitude_of_neg h, or_iff_right h, ← Nat.dvd_iff_mod_eq_zero]
    constructor
    · intro hdvd
      exact (Nat.cast_div hdvd hpos).symm
    · intro heq
      rw [div_eq_iff hpos] at heq
      exact Dvd.intro_left _ (by exact_mod_cast heq.symm)

end Binary64
end Number
end MockServer
