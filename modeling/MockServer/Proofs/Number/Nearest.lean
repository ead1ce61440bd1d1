/-
The number nearest to a rational number.

`IsNearest` says, apart from any reader, to which numbers a rational number is rounded.  Around
each number lies the interval of those that are rounded to it: half of the way to the neighbours on
both sides, and the ends belong to it where the mantissa is even.  The neighbour below a power of
two is only half as far away as the one above.  Main statements:

* `le_sub_gap_or_add_ulp_le` — there is no number between a number and its neighbours;
* `isNearest_iff` — what lies in the interval of a number is rounded to that number and no other.
-/
import Mathlib.Tactic.Linarith
import Mathlib.Tactic.NormNum
import MockServer.Proofs.Number.Value

namespace MockServer.Number

/-- A magnitude with a sign. -/
def signed (negative : Bool) (q : ℚ) : ℚ :=
  if negative then -q else q

theorem signed_signed (negative : Bool) (q : ℚ) : signed negative (signed negative q) = q := by
  cases negative
  · rfl
  · exact neg_neg q

theorem signed_not (negative : Bool) (q : ℚ) : signed (!negative) q = -signed negative q := by
  cases negative
  · rfl
  · exact (neg_neg q).symm

theorem abs_signed (negative : Bool) (q : ℚ) : |signed negative q| = |q| := by
  cases negative
  · rfl
  · exact abs_neg q

theorem abs_signed_sub_signed (negative : Bool) (p q : ℚ) :
    |signed negative p - signed negative q| = |p - q| := by
  cases negative
  · rfl
  · rw [signed, signed, if_pos rfl, if_pos rfl, ← neg_sub', abs_neg]

namespace Binary64

/-- A rational number is rounded to a number where it is within the format, no number is nearer,
and the mantissa is even where another number is as near. -/
structure IsNearest (q : ℚ) (x : Binary64) : Prop where
  bounded : |q| < (2 ^ 54 - 1) * 2 ^ 970
  near (y : Binary64) : |q - x.value| ≤ |q - y.value|
  even (y : Binary64) : y.value ≠ x.value → |q - y.value| = |q - x.value| → x.mantissa % 2 = 0

variable {x y : Binary64} {q : ℚ}

/-! ### The neighbours of a number -/

/-- A unit in the last place, which is the way to the neighbour above. -/
def ulp (x : Binary64) : ℚ :=
  2 ^ x.exponent

/-- The way to the neighbour below. -/
def gap (x : Binary64) : ℚ :=
  if x.mantissa = 0x10000000000000 ∧ -1074 < x.exponent then x.ulp / 2 else x.ulp

theorem ulp_pos (x : Binary64) : 0 < x.ulp :=
  zpow_pos (by norm_num) _

theorem gap_pos (x : Binary64) : 0 < x.gap := by
  have := x.ulp_pos
  rw [gap]
  split <;> linarith

theorem gap_le_ulp (x : Binary64) : x.gap ≤ x.ulp := by
  have := x.ulp_pos
  rw [gap]
  split <;> linarith

theorem mantissa_lt (x : Binary64) : x.mantissa < 2 ^ 53 :=
  x.normal.1

theorem le_mantissa (h : -1074 < x.exponent) : 2 ^ 52 ≤ x.mantissa :=
  x.normal.2.2.2.resolve_right (by omega)

theorem ulp_le_magnitude (h : x.mantissa ≠ 0) : x.ulp ≤ x.magnitude := by
  have hone : (1 : ℚ) ≤ x.mantissa := by exact_mod_cast Nat.pos_of_ne_zero h
  exact le_mul_of_one_le_left x.ulp_pos.le hone

theorem value_eq_signed (x : Binary64) : x.value = signed x.negative x.magnitude :=
  x.value_eq

theorem abs_value (x : Binary64) : |x.value| = x.magnitude := by
  rw [value_eq_signed, abs_signed, abs_of_nonneg x.magnitude_nonneg]

/-- A number with no smaller exponent is a multiple of a unit in the last place. -/
theorem exists_magnitude_eq_mul_ulp (h : x.exponent ≤ y.exponent) :
    ∃ k : ℕ, y.magnitude = k * x.ulp := by
  obtain ⟨d, hd⟩ := Int.eq_ofNat_of_zero_le (Int.sub_nonneg_of_le h)
  refine ⟨y.mantissa * 2 ^ d, ?_⟩
  rw [magnitude, ulp, show y.exponent = d + x.exponent by omega, zpow_add₀ (by norm_num),
    zpow_natCast]
  push_cast
  ring

theorem magnitude_le_of_exponent_lt (h : y.exponent < x.exponent) :
    y.magnitude ≤ (2 ^ 53 - 1) * (x.ulp / 2) := by
  have hmantissa : (y.mantissa : ℚ) ≤ 2 ^ 53 - 1 := by
    have hlt : (y.mantissa : ℚ) + 1 ≤ 2 ^ 53 := by exact_mod_cast y.mantissa_lt
    linarith
  have hulp : (2 : ℚ) ^ y.exponent ≤ x.ulp / 2 := by
    rw [ulp, div_eq_mul_inv, ← zpow_sub_one₀ (by norm_num)]
    exact zpow_le_zpow_right₀ (by norm_num) (by omega)
  exact mul_le_mul hmantissa hulp (zpow_nonneg (by norm_num) _) (by norm_num)

theorem le_magnitude_of_lt (h : -1074 < x.exponent) : 2 ^ 52 * x.ulp ≤ x.magnitude := by
  have hmantissa : (2 : ℚ) ^ 52 ≤ x.mantissa := by exact_mod_cast le_mantissa h
  exact mul_le_mul_of_nonneg_right hmantissa x.ulp_pos.le

/-- There is no number between a number and its neighbours. -/
theorem le_sub_gap_or_add_ulp_le (hne : y.magnitude ≠ x.magnitude) :
    y.magnitude ≤ x.magnitude - x.gap ∨ x.magnitude + x.ulp ≤ y.magnitude := by
  have hpos := x.ulp_pos
  have hgap := x.gap_le_ulp
  rcases lt_or_ge y.exponent x.exponent with hlt | hge
  · -- A number with a smaller exponent is at most the neighbour below a power of two.
    left
    have hnormal : -1074 < x.exponent := lt_of_le_of_lt y.normal.2.1 hlt
    have hy := magnitude_le_of_exponent_lt hlt
    have hx : x.magnitude = x.mantissa * x.ulp := rfl
    rw [gap, hx]
    split
    · rename_i hpower
      rw [hpower.1]
      push_cast
      linarith
    · rename_i hpower
      have hmantissa : (2 : ℚ) ^ 52 + 1 ≤ x.mantissa := by
        have hle := le_mantissa hnormal
        have hne : x.mantissa ≠ 0x10000000000000 := fun h => hpower ⟨h, hnormal⟩
        exact_mod_cast (show 2 ^ 52 + 1 ≤ x.mantissa by omega)
      have := mul_le_mul_of_nonneg_right hmantissa hpos.le
      linarith
  · -- Any other is a multiple of a unit in the last place, as the number itself.
    obtain ⟨k, hk⟩ := exists_magnitude_eq_mul_ulp hge
    have hx : x.magnitude = x.mantissa * x.ulp := rfl
    rw [hk, hx] at hne ⊢
    rcases Nat.lt_trichotomy k x.mantissa with hlt | heq | hgt
    · left
      have hstep : (k : ℚ) + 1 ≤ x.mantissa := by exact_mod_cast hlt
      have := mul_le_mul_of_nonneg_right hstep hpos.le
      linarith
    · exact absurd (by rw [heq]) hne
    · right
      have hstep : (x.mantissa : ℚ) + 1 ≤ k := by exact_mod_cast hgt
      have := mul_le_mul_of_nonneg_right hstep hpos.le
      linarith

/-! ### Numbers and their magnitudes -/

theorem exponent_le_of_magnitude_eq (h : x.magnitude = y.magnitude) :
    x.exponent ≤ y.exponent := by
  by_contra hlt
  rw [not_le] at hlt
  have hy := magnitude_le_of_exponent_lt hlt
  have hx := le_magnitude_of_lt (lt_of_le_of_lt y.normal.2.1 hlt)
  have hpos := x.ulp_pos
  linarith

/-- Numbers of one magnitude have the same mantissa and exponent. -/
theorem fields_eq_of_magnitude_eq (h : x.magnitude = y.magnitude) :
    x.mantissa = y.mantissa ∧ x.exponent = y.exponent := by
  have hexp : x.exponent = y.exponent :=
    le_antisymm (exponent_le_of_magnitude_eq h) (exponent_le_of_magnitude_eq h.symm)
  refine ⟨?_, hexp⟩
  rw [magnitude, magnitude, hexp] at h
  exact_mod_cast mul_right_cancel₀ (zpow_ne_zero _ (by norm_num)) h

theorem magnitude_eq_of_value_eq (h : x.value = y.value) : x.magnitude = y.magnitude := by
  rw [← abs_value, ← abs_value, h]

/-- The zeros are the only two numbers of one value. -/
theorem eq_of_value_eq (h : x.value = y.value) (h0 : x.value ≠ 0) : x = y := by
  obtain ⟨hmantissa, hexp⟩ := fields_eq_of_magnitude_eq (magnitude_eq_of_value_eq h)
  have hsign : x.negative = y.negative := by
    by_contra hne
    have hopposite : x.value = -y.value := by
      rw [value_eq_signed x, value_eq_signed y, magnitude_eq_of_value_eq h, Bool.eq_not_of_ne hne,
        signed_not]
    exact h0 (self_eq_neg.1 (by rwa [← h] at hopposite))
  cases x
  cases y
  cases hsign
  cases hmantissa
  cases hexp
  rfl

/-- The neighbours of a number with an even mantissa have odd ones. -/
theorem odd_of_neighbour (heven : x.mantissa % 2 = 0)
    (hy : x.mantissa ≠ 0 ∧ y.magnitude = x.magnitude - x.gap
      ∨ y.magnitude = x.magnitude + x.ulp) :
    y.mantissa % 2 = 1 := by
  obtain ⟨hlt, hmin, hmax, hnormal⟩ := x.normal
  have hx : x.magnitude = x.mantissa * x.ulp := rfl
  have hfields : ∀ {mantissa : ℕ} {exponent : ℤ} (_ : IsNormalForm mantissa exponent),
      y.magnitude = mantissa * 2 ^ exponent → y.mantissa = mantissa := fun hform hmagnitude =>
    (fields_eq_of_magnitude_eq (y := ⟨false, _, _, hform⟩) hmagnitude).1
  rcases hy with ⟨h0, hbelow⟩ | habove
  · rw [gap] at hbelow
    split at hbelow
    · rename_i hpower
      have hform : IsNormalForm (2 ^ 53 - 1) (x.exponent - 1) :=
        ⟨by decide, by omega, by omega, .inl (by decide)⟩
      rw [hfields hform]
      · decide
      · rw [hbelow, hx, hpower.1, zpow_sub_one₀ (by norm_num), ulp]
        push_cast
        ring
    · rename_i hpower
      have hform : IsNormalForm (x.mantissa - 1) x.exponent :=
        ⟨by omega, hmin, hmax, by omega⟩
      rw [hfields hform]
      · omega
      · rw [hbelow, hx, ulp, Nat.cast_sub (Nat.pos_of_ne_zero h0)]
        push_cast
        ring
  · have hform : IsNormalForm (x.mantissa + 1) x.exponent :=
      ⟨by omega, hmin, hmax, by omega⟩
    rw [hfields hform]
    · omega
    · rw [habove, hx, ulp]
      push_cast
      ring

/-! ### The interval around a number -/

/-- The rational numbers that are rounded to a number, seen from its sign. -/
def IsAround (x : Binary64) (q : ℚ) : Prop :=
  if x.mantissa % 2 = 0 then x.magnitude - x.gap / 2 ≤ q ∧ q ≤ x.magnitude + x.ulp / 2
  else x.magnitude - x.gap / 2 < q ∧ q < x.magnitude + x.ulp / 2

theorem isAround_of_lt (hlow : x.magnitude - x.gap / 2 < q) (hhigh : q < x.magnitude + x.ulp / 2) :
    x.IsAround q := by
  rw [IsAround]
  split
  · exact ⟨hlow.le, hhigh.le⟩
  · exact ⟨hlow, hhigh⟩

theorem isAround_magnitude (x : Binary64) : x.IsAround x.magnitude := by
  have hulp := x.ulp_pos
  have hgap := x.gap_pos
  exact isAround_of_lt (by linarith) (by linarith)

/-- What lies between two magnitudes of the interval is one, too. -/
theorem IsAround.between {p r : ℚ} (hp : x.IsAround p) (hr : x.IsAround r) (hpq : p ≤ q)
    (hqr : q ≤ r) : x.IsAround q := by
  rw [IsAround] at hp hr ⊢
  split at hp <;> rename_i heven
  · rw [if_pos heven] at hr ⊢
    exact ⟨hp.1.trans hpq, hqr.trans hr.2⟩
  · rw [if_neg heven] at hr ⊢
    exact ⟨hp.1.trans_le hpq, hqr.trans_lt hr.2⟩

theorem IsAround.le (h : x.IsAround q) :
    x.magnitude - x.gap / 2 ≤ q ∧ q ≤ x.magnitude + x.ulp / 2 := by
  rw [IsAround] at h
  split at h
  · exact h
  · exact ⟨h.1.le, h.2.le⟩

/-- At an end of the interval the mantissa is even. -/
theorem IsAround.even (h : x.IsAround q)
    (hend : q = x.magnitude - x.gap / 2 ∨ q = x.magnitude + x.ulp / 2) : x.mantissa % 2 = 0 := by
  rw [IsAround] at h
  split at h
  · assumption
  · rcases hend with rfl | rfl
    · exact absurd h.1 (lt_irrefl _)
    · exact absurd h.2 (lt_irrefl _)

/-- Half of the way to the neighbours a number is the nearest. -/
theorem abs_sub_le_of_half {m v g u : ℚ} (hg : 0 < g) (hu : 0 < u) (hlow : m - g / 2 ≤ q)
    (hhigh : q ≤ m + u / 2) (hv : v ≤ m - g ∨ m + u ≤ v) :
    |q - m| ≤ |q - v| ∧
      (|q - v| = |q - m| → q = m - g / 2 ∧ v = m - g ∨ q = m + u / 2 ∧ v = m + u) := by
  rcases hv with hv | hv
  · rw [abs_of_nonneg (show 0 ≤ q - v by linarith)]
    refine ⟨abs_le.2 ⟨by linarith, by linarith⟩, fun heq => .inl ?_⟩
    rcases abs_choice (q - m) with h | h <;> rw [h] at heq
    · exact absurd heq (ne_of_gt (by linarith))
    · exact ⟨by linarith, by linarith⟩
  · rw [abs_of_nonpos (show q - v ≤ 0 by linarith)]
    refine ⟨abs_le.2 ⟨by linarith, by linarith⟩, fun heq => .inr ?_⟩
    rcases abs_choice (q - m) with h | h <;> rw [h] at heq
    · exact ⟨by linarith, by linarith⟩
    · exact absurd heq (ne_of_gt (by linarith))

theorem abs_signed_sub_value (negative : Bool) (q v : ℚ) :
    |signed negative q - v| = |q - signed negative v| := by
  rw [← abs_signed_sub_signed negative q, signed_signed]

/-- Seen from the sign of a number, no value lies between its magnitude and the neighbours. -/
theorem signed_value_le_or_le (hne : y.value ≠ x.value) :
    signed x.negative y.value ≤ x.magnitude - x.gap
      ∨ x.magnitude + x.ulp ≤ signed x.negative y.value := by
  by_cases hsign : y.negative = x.negative
  · rw [value_eq_signed y, hsign, signed_signed]
    refine le_sub_gap_or_add_ulp_le fun h => hne ?_
    rw [value_eq_signed, value_eq_signed, hsign, h]
  · -- A value of the other sign is on the other side of zero.
    left
    have hneg : signed x.negative y.value = -y.magnitude := by
      rw [Bool.eq_not_of_ne (Ne.symm hsign), signed_not, value_eq_signed, signed_signed]
    have hgap := x.gap_le_ulp
    have hy := y.magnitude_nonneg
    by_cases h0 : x.mantissa = 0
    · have hx : x.magnitude = 0 := (magnitude_eq_zero_iff x).2 h0
      have hmagnitude : y.magnitude ≠ x.magnitude := by
        rw [hx, ← abs_value, abs_ne_zero]
        rwa [← abs_eq_zero.1 (x.abs_value.trans hx)]
      have hpos := x.gap_pos
      rcases le_sub_gap_or_add_ulp_le hmagnitude with hle | hle <;> linarith
    · have hulp := ulp_le_magnitude h0
      linarith

/-- The interval of a number is within the format. -/
theorem IsAround.bounded (h : x.IsAround q) : |q| < (2 ^ 54 - 1) * 2 ^ 970 := by
  have hnonneg := x.magnitude_nonneg
  have hgap := x.gap_le_ulp
  have hulp : x.ulp ≤ 2 * 2 ^ 970 := by
    have hle : x.ulp ≤ (2 : ℚ) ^ (971 : ℤ) :=
      zpow_le_zpow_right₀ (by norm_num) x.normal.2.2.1
    exact hle.trans_eq (by rw [← pow_succ']; exact zpow_natCast 2 971)
  have hpos : (0 : ℚ) < 2 ^ 970 := pow_pos (by norm_num) _
  generalize (2 : ℚ) ^ 970 = unit at hulp hpos ⊢
  have hmiddle : x.magnitude + x.ulp / 2 = (x.mantissa + 1 / 2) * x.ulp := by
    rw [magnitude, ulp]
    ring
  have htop : x.magnitude + x.ulp / 2 ≤ (x.mantissa + 1 / 2) * (2 * unit) := by
    rw [hmiddle]
    exact mul_le_mul_of_nonneg_left hulp (by positivity)
  have hlt := x.mantissa_lt
  refine abs_lt.2 ⟨by linarith [h.le.1], ?_⟩
  -- The end above the greatest number is just outside, and that number has an odd mantissa.
  rw [IsAround] at h
  split at h
  · have hmantissa : (x.mantissa : ℚ) + 2 ≤ 2 ^ 53 := by
      exact_mod_cast (show x.mantissa + 2 ≤ 2 ^ 53 by omega)
    have := mul_le_mul_of_nonneg_right hmantissa hpos.le
    linarith [h.2]
  · have hmantissa : (x.mantissa : ℚ) + 1 ≤ 2 ^ 53 := by exact_mod_cast hlt
    have := mul_le_mul_of_nonneg_right hmantissa hpos.le
    linarith [h.2]

/-! ### Rounding -/

/-- Nothing in the interval of a number is nearer to another value, and only an end is as near to a
neighbour. -/
theorem IsAround.abs_sub_le (h : x.IsAround q) (hne : y.value ≠ x.value) :
    |signed x.negative q - x.value| ≤ |signed x.negative q - y.value| ∧
      (|signed x.negative q - y.value| = |signed x.negative q - x.value| →
        q = x.magnitude - x.gap / 2 ∧ signed x.negative y.value = x.magnitude - x.gap ∨
          q = x.magnitude + x.ulp / 2 ∧ signed x.negative y.value = x.magnitude + x.ulp) := by
  rw [abs_signed_sub_value, abs_signed_sub_value, value_eq_signed x, signed_signed]
  exact abs_sub_le_of_half x.gap_pos x.ulp_pos h.le.1 h.le.2 (signed_value_le_or_le hne)

/-- What lies in the interval of a number is rounded to that number. -/
theorem IsAround.isNearest (h : x.IsAround q) : IsNearest (signed x.negative q) x where
  bounded := by
    rw [abs_signed]
    exact h.bounded
  near y := by
    by_cases hne : y.value = x.value
    · rw [hne]
    · exact (h.abs_sub_le hne).1
  even y hne heq := by
    rcases (h.abs_sub_le hne).2 heq with ⟨hlow, _⟩ | ⟨hhigh, _⟩
    · exact h.even (.inl hlow)
    · exact h.even (.inr hhigh)

/-- What lies in the interval of a number is rounded to no other. -/
theorem IsNearest.value_eq (hy : IsNearest (signed x.negative q) y) (h : x.IsAround q) :
    y.value = x.value := by
  by_contra hne
  have hx := h.isNearest
  have heq := le_antisymm (hy.near x) (hx.near y)
  have heven := hy.even x (Ne.symm hne) heq.symm
  -- Two numbers that are equally near are neighbours, and only one mantissa is even.
  have hneighbour : x.mantissa ≠ 0 ∧ y.magnitude = x.magnitude - x.gap
      ∨ y.magnitude = x.magnitude + x.ulp := by
    have hpos := x.ulp_pos
    rw [← abs_value y, ← abs_signed x.negative]
    rcases (h.abs_sub_le hne).2 heq with ⟨_, hv⟩ | ⟨_, hv⟩ <;> rw [hv]
    · by_cases h0 : x.mantissa = 0
      · right
        rw [(magnitude_eq_zero_iff x).2 h0, gap, if_neg (by omega), zero_sub, abs_neg,
          abs_of_pos hpos, zero_add]
      · have hulp := ulp_le_magnitude h0
        have hgap := x.gap_le_ulp
        exact .inl ⟨h0, abs_of_nonneg (by linarith)⟩
    · have hnonneg := x.magnitude_nonneg
      exact .inr (abs_of_nonneg (by linarith))
  have hodd := odd_of_neighbour (hx.even y hne heq) hneighbour
  omega

/-- What lies in the interval of a number is rounded to the numbers of its value. -/
theorem isNearest_iff (h : x.IsAround q) :
    IsNearest (signed x.negative q) y ↔ y.value = x.value := by
  refine ⟨fun hy => hy.value_eq h, fun heq => ?_⟩
  have hx := h.isNearest
  have hmantissa := (fields_eq_of_magnitude_eq (magnitude_eq_of_value_eq heq)).1
  refine ⟨hx.bounded, fun z => ?_, fun z hne hz => ?_⟩
  · rw [heq]
    exact hx.near z
  · rw [heq] at hne hz
    rw [hmantissa]
    exact hx.even z hne hz

/-- A number is rounded to the numbers of its value. -/
theorem isNearest_value_iff : IsNearest x.value y ↔ y.value = x.value := by
  have h := isNearest_iff (y := y) x.isAround_magnitude
  rwa [← value_eq_signed] at h

end Binary64
end MockServer.Number
