/-
Rounding whole numbers to binary64.

Below two to the power of 53 every whole number is a binary64 number and stands for itself.
From there on rounding may move a number, or find it too large, but never moves it below that
bound.  Main statements:

* `exists_ofRatio_of_lt` — a whole number below the bound is its own rounding;
* `le_magnitude_of_ofRatio` — any other stays at or above the bound.
-/
import MockServer.Proofs.Number.Quotient

namespace MockServer.Number.Binary64

/-- Below the bound every whole number is the magnitude of a number of either sign. -/
theorem exists_magnitude_eq (negative : Bool) {n : ℕ} (h : n < 2 ^ 53) :
    ∃ x : Binary64, x.negative = negative ∧ x.magnitude = n := by
  by_cases h0 : n = 0
  · refine ⟨zero negative, rfl, ?_⟩
    rw [h0, Nat.cast_zero]
    exact (magnitude_eq_zero_iff _).2 rfl
  have hlog : n.log2 ≤ 52 := Nat.le_of_lt_succ ((Nat.log2_lt h0).2 h)
  -- Shifted by `k` the number fills all digits of a mantissa.
  set k := 52 - n.log2 with hk
  have hlow : 2 ^ 52 ≤ n * 2 ^ k :=
    calc 2 ^ 52 = 2 ^ n.log2 * 2 ^ k := by rw [← pow_add, hk, Nat.add_sub_cancel' hlog]
      _ ≤ n * 2 ^ k := Nat.mul_le_mul_right _ (Nat.log2_self_le h0)
  have hhigh : n * 2 ^ k < 2 ^ 53 :=
    calc n * 2 ^ k < 2 ^ (n.log2 + 1) * 2 ^ k :=
          Nat.mul_lt_mul_of_pos_right Nat.lt_log2_self (Nat.pow_pos (by decide))
      _ = 2 ^ 53 := by rw [← pow_add, hk]; congr 1; omega
  have hnormal : IsNormalForm (n * 2 ^ k) (-(k : ℤ)) := ⟨hhigh, by omega, by omega, .inl hlow⟩
  refine ⟨⟨negative, n * 2 ^ k, -(k : ℤ), hnormal⟩, rfl, ?_⟩
  rw [magnitude]
  push_cast
  rw [zpow_neg, zpow_natCast, mul_assoc, mul_inv_cancel₀ (pow_ne_zero _ (by norm_num)), mul_one]

/-- What a whole number is rounded to is nearest to it. -/
theorem isNearest_of_ofRatio_one {negative : Bool} {n : ℕ} {x : Binary64}
    (hx : ofRatio negative n 1 = some x) :
    x.negative = negative ∧ IsNearest (signed negative n) x := by
  obtain ⟨hsign, haround⟩ := ofRatio_isAround Nat.one_pos hx
  rw [Nat.cast_one, div_one] at haround
  rw [← hsign]
  exact ⟨rfl, haround.isNearest⟩

/-- A whole number below the bound is its own rounding. -/
theorem exists_ofRatio_of_lt (negative : Bool) {n : ℕ} (h : n < 2 ^ 53) :
    ∃ x, ofRatio negative n 1 = some x ∧ x.negative = negative ∧ x.magnitude = n := by
  obtain ⟨y, hy, hmagnitude⟩ := exists_magnitude_eq negative h
  have hvalue : y.value = signed negative n := by rw [value_eq_signed, hy, hmagnitude]
  cases hx : ofRatio negative n 1 with
  | none =>
    have hbound := ofRatio_eq_none Nat.one_pos hx
    have hformat := y.isAround_magnitude.bounded
    rw [abs_of_nonneg y.magnitude_nonneg, hmagnitude] at hformat
    rw [Nat.cast_one, div_one] at hbound
    exact absurd hformat (not_lt.2 hbound)
  | some x =>
    obtain ⟨hsign, hnearest⟩ := isNearest_of_ofRatio_one hx
    rw [← hvalue] at hnearest
    have hsame := magnitude_eq_of_value_eq (isNearest_value_iff.1 hnearest)
    exact ⟨x, rfl, hsign, hsame.trans hmagnitude⟩

/-- A whole number at or above the bound is not moved below it. -/
theorem le_magnitude_of_ofRatio {negative : Bool} {n : ℕ} {x : Binary64} (h : 2 ^ 53 ≤ n)
    (hx : ofRatio negative n 1 = some x) : x.negative = negative ∧ 2 ^ 53 ≤ x.magnitude := by
  obtain ⟨hsign, hnearest⟩ := isNearest_of_ofRatio_one hx
  refine ⟨hsign, ?_⟩
  -- The bound itself is a number, and it is nearer than anything below it.
  obtain ⟨bound, hsame, hmagnitude⟩ :
      ∃ y : Binary64, y.negative = negative ∧ y.magnitude = 2 ^ 53 :=
    ⟨⟨negative, 2 ^ 52, 1, by decide⟩, rfl, by norm_num [magnitude]⟩
  have hbound : bound.value = signed negative (2 ^ 53) := by
    rw [value_eq_signed, hsame, hmagnitude]
  have hnear := hnearest.near bound
  have hn : (2 : ℚ) ^ 53 ≤ n := by exact_mod_cast h
  rw [hbound, value_eq_signed, hsign, abs_signed_sub_signed, abs_signed_sub_signed,
    abs_of_nonneg (show (0 : ℚ) ≤ n - 2 ^ 53 by linarith)] at hnear
  by_contra hlt
  linarith [le_abs_self ((n : ℚ) - x.magnitude)]

end MockServer.Number.Binary64
