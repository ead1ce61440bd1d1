/-
The fewest digits are rounded back.

The comparisons of the search are on whole numbers: both sides are multiplied by the same powers
of two and of ten.  The interval around a number is wider than a unit of the seventeenth digit, so
the search finds a point of it at the latest on that grid, and dropping zeros at the end of the
digits changes nothing.  Main statements:

* `reads_iff` — the search accepts a point of a grid where it lies in the interval of the number;
* `isAround_shortest` — the fewest digits lie in the interval of the number that they stand for.
-/
import Mathlib.Algebra.Order.Floor.Semifield
import MockServer.Proofs.Number.Nearest

namespace MockServer.Number

/-- The exact value of a decimal. -/
def Decimal.value (d : Decimal) : ℚ :=
  d.digits * 10 ^ d.exponent

/-- A power with a negative exponent is made whole by one with the opposite exponent. -/
theorem zpow_mul_pow_toNat_neg {a : ℚ} (ha : a ≠ 0) (z : ℤ) :
    a ^ z * a ^ (-z).toNat = a ^ z.toNat := by
  rw [← zpow_natCast, ← zpow_natCast, ← zpow_add₀ ha]
  congr 1
  omega

namespace Decimal

theorem value_dropZeros (fuel : ℕ) (d : Decimal) : (d.dropZeros fuel).value = d.value := by
  induction fuel generalizing d with
  | zero => rfl
  | succ fuel ih =>
    rw [dropZeros]
    split
    · rename_i hzero
      have hdigits : (d.digits : ℚ) = 10 * (d.digits / 10 : ℕ) := by
        exact_mod_cast (show d.digits = 10 * (d.digits / 10) by omega)
      rw [ih, value, value, hdigits, zpow_add_one₀ (by norm_num)]
      ring
    · rfl

end Decimal

namespace Binary64

variable {x : Binary64} {grid : ℤ} {n : ℕ}

/-! ### Comparisons -/

/-- What both sides of a comparison are multiplied by. -/
def common (exponent grid : ℤ) : ℚ :=
  2 ^ (2 - exponent).toNat * 10 ^ (-grid).toNat

theorem common_pos (exponent grid : ℤ) : 0 < common exponent grid :=
  mul_pos (pow_pos (by norm_num) _) (pow_pos (by norm_num) _)

theorem cast_sides (exponent grid : ℤ) (quarters n : ℕ) :
    ((sides exponent grid quarters n).1 : ℚ) = quarters * 2 ^ (exponent - 2) * common exponent grid
      ∧ ((sides exponent grid quarters n).2 : ℚ) = n * 10 ^ grid * common exponent grid := by
  have htwo := zpow_mul_pow_toNat_neg (show (2 : ℚ) ≠ 0 by norm_num) (exponent - 2)
  have hten := zpow_mul_pow_toNat_neg (show (10 : ℚ) ≠ 0 by norm_num) grid
  rw [neg_sub] at htwo
  simp only [sides, twoTo_eq, tenTo_eq, common, neg_sub, Nat.cast_mul, Nat.cast_pow, Nat.cast_ofNat]
  rw [← htwo, ← hten]
  constructor <;> ring

theorem sides_le_iff (exponent grid : ℤ) (quarters n : ℕ) :
    ((sides exponent grid quarters n).1 ≤ (sides exponent grid quarters n).2 ↔
        quarters * (2 : ℚ) ^ (exponent - 2) ≤ n * 10 ^ grid)
      ∧ ((sides exponent grid quarters n).2 ≤ (sides exponent grid quarters n).1 ↔
        n * (10 : ℚ) ^ grid ≤ quarters * 2 ^ (exponent - 2)) := by
  obtain ⟨hfst, hsnd⟩ := cast_sides exponent grid quarters n
  have hpos := common_pos exponent grid
  rw [← Nat.cast_le (α := ℚ), ← Nat.cast_le (α := ℚ), hfst, hsnd, mul_le_mul_iff_left₀ hpos,
    mul_le_mul_iff_left₀ hpos]
  exact ⟨Iff.rfl, Iff.rfl⟩

/-- The ends of the interval of a number, in quarters of a unit in the last place. -/
theorem span_eq (h0 : x.mantissa ≠ 0) :
    x.span.low * (2 : ℚ) ^ (x.exponent - 2) = x.magnitude - x.gap / 2
      ∧ x.span.high * (2 : ℚ) ^ (x.exponent - 2) = x.magnitude + x.ulp / 2 := by
  have hquarter : (2 : ℚ) ^ (x.exponent - 2) = x.ulp / 4 := by
    rw [ulp, zpow_sub₀ (by norm_num)]
    norm_num
  have hm : x.magnitude = x.mantissa * x.ulp := rfl
  rw [hquarter, hm, gap, span]
  constructor
  · dsimp only
    split
    · rw [Nat.cast_sub (by omega)]
      push_cast
      ring
    · rw [Nat.cast_sub (by omega)]
      push_cast
      ring
  · push_cast
    ring

/-- The search accepts a point of a grid where it lies in the interval of the number. -/
theorem reads_iff (h0 : x.mantissa ≠ 0) :
    x.reads grid n = true ↔ x.IsAround (n * 10 ^ grid) := by
  obtain ⟨hlow, hhigh⟩ := span_eq h0
  have hlowle := sides_le_iff x.exponent grid x.span.low n
  have hhighle := sides_le_iff x.exponent grid x.span.high n
  have hclosed : x.span.closed = true ↔ x.mantissa % 2 = 0 := beq_iff_eq
  rw [hlow] at hlowle
  rw [hhigh] at hhighle
  rw [reads, IsAround]
  simp only [hclosed]
  split
  · rw [Bool.and_eq_true, decide_eq_true_eq, decide_eq_true_eq, hlowle.1, hhighle.2]
  · rw [Bool.and_eq_true, decide_eq_true_eq, decide_eq_true_eq, ← not_le, ← not_le, hlowle.2,
      hhighle.1, not_le, not_le]

/-! ### The points beside a number -/

theorem floorOn_eq_floor (x : Binary64) (grid : ℤ) :
    x.floorOn grid = ⌊x.magnitude / 10 ^ grid⌋₊ := by
  obtain ⟨hfst, hsnd⟩ := cast_sides x.exponent grid x.span.mid 1
  have hpos := common_pos x.exponent grid
  have hmid : (x.span.mid : ℚ) * 2 ^ (x.exponent - 2) = x.magnitude := by
    rw [span, magnitude, zpow_sub₀ (by norm_num)]
    push_cast
    ring
  show (sides x.exponent grid x.span.mid 1).1 / (sides x.exponent grid x.span.mid 1).2 = _
  rw [← Nat.floor_div_eq_div (K := ℚ), hfst, hsnd, hmid, mul_div_mul_right _ _ hpos.ne',
    Nat.cast_one, one_mul]

theorem floorOn_mul_le (x : Binary64) (grid : ℤ) : x.floorOn grid * (10 : ℚ) ^ grid ≤ x.magnitude := by
  have hpos : (0 : ℚ) < 10 ^ grid := zpow_pos (by norm_num) _
  rw [floorOn_eq_floor, ← le_div_iff₀ hpos]
  exact Nat.floor_le (div_nonneg x.magnitude_nonneg hpos.le)

theorem lt_floorOn_succ_mul (x : Binary64) (grid : ℤ) :
    x.magnitude < (x.floorOn grid + 1 : ℕ) * (10 : ℚ) ^ grid := by
  have hpos : (0 : ℚ) < 10 ^ grid := zpow_pos (by norm_num) _
  rw [floorOn_eq_floor, ← div_lt_iff₀ hpos, Nat.cast_add_one]
  exact Nat.lt_floor_add_one _

theorem nearestOn_eq_or (x : Binary64) (grid : ℤ) :
    x.nearestOn grid = x.floorOn grid ∨ x.nearestOn grid = x.floorOn grid + 1 := by
  simp only [nearestOn, floorOn, nearestEven]
  split
  · exact .inl rfl
  · split
    · exact .inr rfl
    · omega

/-- Where a point of a grid is accepted, one beside the number is. -/
theorem reads_floorOn_or (h0 : x.mantissa ≠ 0) (h : x.reads grid n = true) :
    x.reads grid (x.floorOn grid) = true ∨ x.reads grid (x.floorOn grid + 1) = true := by
  have hpos : (0 : ℚ) < 10 ^ grid := zpow_pos (by norm_num) _
  rw [reads_iff h0] at h
  rw [reads_iff h0, reads_iff h0]
  -- The number is in its own interval, and so is all between it and the accepted point.
  rcases Nat.lt_or_ge (x.floorOn grid) n with hlt | hge
  · right
    have hn : ((x.floorOn grid + 1 : ℕ) : ℚ) ≤ n := Nat.cast_le.2 hlt
    exact x.isAround_magnitude.between h (x.lt_floorOn_succ_mul grid).le
      (mul_le_mul_of_nonneg_right hn hpos.le)
  · left
    have hn : (n : ℚ) ≤ x.floorOn grid := Nat.cast_le.2 hge
    exact h.between x.isAround_magnitude (mul_le_mul_of_nonneg_right hn hpos.le)
      (x.floorOn_mul_le grid)

/-! ### The search -/

/-- A search ends on a grid with an accepted point, and goes on where none is beside the number. -/
theorem shortestFrom_succ (x : Binary64) (count : ℕ) (grid : ℤ) :
    (∃ n, x.reads grid n = true ∧ x.shortestFrom (count + 1) grid = ⟨n, grid⟩)
      ∨ x.reads grid (x.floorOn grid) = false ∧ x.reads grid (x.floorOn grid + 1) = false
        ∧ x.shortestFrom (count + 1) grid = x.shortestFrom count (grid - 1) := by
  rw [shortestFrom]
  split
  · rename_i hbelow habove
    refine .inl ⟨_, ?_, rfl⟩
    rcases x.nearestOn_eq_or grid with h | h
    · rw [h, hbelow]
    · rw [h, habove]
  · rename_i hbelow _
    exact .inl ⟨_, hbelow, rfl⟩
  · rename_i _ habove
    exact .inl ⟨_, habove, rfl⟩
  · rename_i hbelow habove
    exact .inr ⟨hbelow, habove, rfl⟩

/-- A search that comes to a grid with an accepted point finds one. -/
theorem reads_shortestFrom (h0 : x.mantissa ≠ 0) {count : ℕ}
    (h : x.reads (grid - count) n = true) :
    x.reads (x.shortestFrom (count + 1) grid).exponent (x.shortestFrom (count + 1) grid).digits
      = true := by
  induction count generalizing grid with
  | zero =>
    rw [Nat.cast_zero, sub_zero] at h
    obtain ⟨m, hm, hfound⟩ | ⟨hbelow, habove, _⟩ := x.shortestFrom_succ 0 grid
    · rw [hfound]
      exact hm
    · rcases reads_floorOn_or h0 h with hread | hread
      · cases hbelow.symm.trans hread
      · cases habove.symm.trans hread
  | succ count ih =>
    obtain ⟨m, hm, hfound⟩ | ⟨_, _, hnext⟩ := x.shortestFrom_succ (count + 1) grid
    · rw [hfound]
      exact hm
    · rw [hnext]
      exact ih (by rwa [Nat.cast_succ, ← sub_sub, sub_right_comm] at h)

theorem ten_pow_log10_le (h0 : x.mantissa ≠ 0) : (10 : ℚ) ^ x.log10 ≤ x.magnitude := by
  have hone : (1 : ℚ) ≤ x.floorOn x.log10 := by exact_mod_cast x.one_le_floorOn_log10 h0
  exact (le_mul_of_one_le_left (zpow_nonneg (by norm_num) _) hone).trans (x.floorOn_mul_le _)

/-- The interval of a number is wider than a unit of the seventeenth digit. -/
theorem unit_lt_width (h0 : x.mantissa ≠ 0) :
    (10 : ℚ) ^ (x.log10 - 16) < x.gap / 2 + x.ulp / 2 := by
  have hunit : (10 : ℚ) ^ (x.log10 - 16) * 10 ^ 16 ≤ x.mantissa * x.ulp := by
    rw [zpow_sub₀ (by norm_num), zpow_ofNat, div_mul_cancel₀ _ (by norm_num)]
    exact ten_pow_log10_le h0
  have hpos := x.ulp_pos
  rw [gap]
  split
  · rename_i hpower
    rw [hpower.1] at hunit
    push_cast at hunit
    linarith
  · have hmantissa : (x.mantissa : ℚ) ≤ 2 ^ 53 := by exact_mod_cast x.mantissa_lt.le
    have := mul_le_mul_of_nonneg_right hmantissa hpos.le
    linarith

theorem exists_reads (h0 : x.mantissa ≠ 0) : ∃ n, x.reads (x.log10 - 16) n = true := by
  have hwidth := unit_lt_width h0
  have hbelow := x.floorOn_mul_le (x.log10 - 16)
  have habove := x.lt_floorOn_succ_mul (x.log10 - 16)
  have hulp := x.ulp_pos
  have hgap := x.gap_pos
  set below := x.floorOn (x.log10 - 16)
  have hstep : ((below + 1 : ℕ) : ℚ) * 10 ^ (x.log10 - 16)
      = below * 10 ^ (x.log10 - 16) + 10 ^ (x.log10 - 16) := by
    push_cast
    ring
  -- A point below the interval is followed by one that is not above it.
  by_cases hlow : x.magnitude - x.gap / 2 < below * (10 : ℚ) ^ (x.log10 - 16)
  · exact ⟨below, (reads_iff h0).2 (isAround_of_lt hlow (by linarith))⟩
  · exact ⟨below + 1, (reads_iff h0).2 (isAround_of_lt (by linarith) (by linarith))⟩

/-- The fewest digits lie in the interval of the number that they stand for. -/
theorem isAround_shortest (x : Binary64) : x.IsAround x.shortest.value := by
  have hzero : x.isZero = true ↔ x.mantissa = 0 := beq_iff_eq
  by_cases h0 : x.mantissa = 0
  · have hvalue : x.shortest.value = x.magnitude := by
      rw [shortest, if_pos (hzero.2 h0), (magnitude_eq_zero_iff x).2 h0]
      exact zero_mul _
    rw [hvalue]
    exact x.isAround_magnitude
  · obtain ⟨n, hn⟩ := exists_reads h0
    rw [shortest, if_neg (mt hzero.1 h0), Decimal.value_dropZeros]
    exact (reads_iff h0).1 (reads_shortestFrom h0 hn)

end Binary64
end MockServer.Number
