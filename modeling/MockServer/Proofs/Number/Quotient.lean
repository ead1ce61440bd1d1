/-
Rounding a quotient of whole numbers.

A quotient is rounded to a whole number of units, and the unit is chosen by the greatest power of
two that is no more than the quotient, so that the units that are kept fill a mantissa.  Rounding
up may fill one mantissa too many; then the unit is doubled, and the quotient is just below a power
of two, where half of the way to it is a quarter of that unit.  Main statements:

* `ofRatio_isAround`, `ofRatio_eq_none` — a quotient lies in the interval of the number that it is
  rounded to, and only what is outside the format is not rounded;
* `ofDecimal_isAround`, `ofDecimal_eq_none` — the same of a decimal.
-/
import Mathlib.Tactic.FieldSimp
import MockServer.Proofs.Number.RoundTrip

namespace MockServer.Number.Binary64

variable {num den m : ℕ} {e : ℤ} {q : ℚ} {x : Binary64} {negative : Bool}

/-! ### Units -/

/-- A quotient that is scaled by a power of two. -/
theorem cast_scale (num : ℕ) (hden : 0 < den) (shift : ℤ) :
    0 < (scale num den shift).2
      ∧ ((scale num den shift).1 : ℚ) / (scale num den shift).2 = num / den * 2 ^ shift := by
  have hpos : (0 : ℚ) < den := Nat.cast_pos.2 hden
  rw [scale]
  split
  · rename_i hshift
    obtain ⟨k, rfl⟩ := Int.eq_ofNat_of_zero_le hshift
    refine ⟨hden, ?_⟩
    rw [Int.toNat_natCast, twoTo_eq, zpow_natCast]
    push_cast
    ring
  · rename_i hshift
    obtain ⟨k, hk⟩ := Int.eq_ofNat_of_zero_le (show 0 ≤ -shift by omega)
    rw [hk, Int.toNat_natCast, twoTo_eq, ← neg_neg shift, hk, zpow_neg, zpow_natCast]
    refine ⟨Nat.mul_pos hden (Nat.pow_pos (by decide)), ?_⟩
    push_cast
    field_simp

/-- The nearest whole number is at most a half away, and exactly a half only where it is even. -/
theorem nearestEven_bounds (num : ℕ) (hden : 0 < den) :
    (nearestEven num den : ℚ) - 1 / 2 ≤ num / den ∧ (num : ℚ) / den ≤ nearestEven num den + 1 / 2
      ∧ (nearestEven num den % 2 ≠ 0 → (nearestEven num den : ℚ) - 1 / 2 < num / den
        ∧ (num : ℚ) / den < nearestEven num den + 1 / 2) := by
  have hpos : (0 : ℚ) < den := Nat.cast_pos.2 hden
  have hdiv := Nat.div_add_mod num den
  have hmod := Nat.mod_lt num hden
  have hwhole : 2 * (nearestEven num den * den) ≤ 2 * num + den
      ∧ 2 * num ≤ 2 * (nearestEven num den * den) + den
      ∧ (nearestEven num den % 2 ≠ 0 → 2 * (nearestEven num den * den) < 2 * num + den
        ∧ 2 * num < 2 * (nearestEven num den * den) + den) := by
    have hsucc : (num / den + 1) * den = den * (num / den) + den := by ring
    have hself : num / den * den = den * (num / den) := Nat.mul_comm _ _
    simp only [nearestEven]
    split
    · rw [hself]
      omega
    · split
      · rw [hsucc]
        omega
      · rcases Nat.mod_two_eq_zero_or_one (num / den) with hparity | hparity
        · rw [hparity, Nat.add_zero, hself]
          omega
        · rw [hparity, hsucc]
          omega
  obtain ⟨hlow, hhigh, hodd⟩ := hwhole
  generalize nearestEven num den = m at hlow hhigh hodd ⊢
  refine ⟨?_, ?_, fun h => ⟨?_, ?_⟩⟩
  · rw [le_div_iff₀ hpos]
    have : (2 * (m * den) : ℚ) ≤ 2 * num + den := by exact_mod_cast hlow
    linarith
  · rw [div_le_iff₀ hpos]
    have : (2 * num : ℚ) ≤ 2 * (m * den) + den := by exact_mod_cast hhigh
    linarith
  · rw [lt_div_iff₀ hpos]
    have : (2 * (m * den) : ℚ) < 2 * num + den := by exact_mod_cast (hodd h).1
    linarith
  · rw [div_lt_iff₀ hpos]
    have : (2 * num : ℚ) < 2 * (m * den) + den := by exact_mod_cast (hodd h).2
    linarith

/-- The exponent of the greatest power of two that is no more than a quotient. -/
theorem ratioLog2_bounds (hnum : num ≠ 0) (hden : 0 < den) :
    (2 : ℚ) ^ ratioLog2 num den ≤ num / den ∧ (num : ℚ) / den < 2 ^ (ratioLog2 num den + 1) := by
  have hpos : (0 : ℚ) < den := Nat.cast_pos.2 hden
  have htwo : (2 : ℚ) ≠ 0 := by norm_num
  have hnumLow : (2 : ℚ) ^ (num.log2 : ℤ) ≤ num := by
    rw [zpow_natCast]
    exact_mod_cast Nat.log2_self_le hnum
  have hnumHigh : (num : ℚ) < 2 ^ (num.log2 + 1 : ℤ) := by
    exact_mod_cast Nat.lt_log2_self (n := num)
  have hdenLow : (2 : ℚ) ^ (den.log2 : ℤ) ≤ den := by
    rw [zpow_natCast]
    exact_mod_cast Nat.log2_self_le hden.ne'
  have hdenHigh : (den : ℚ) < 2 ^ (den.log2 + 1 : ℤ) := by
    exact_mod_cast Nat.lt_log2_self (n := den)
  -- The logarithms of both numbers tell the exponent up to one, and a comparison decides.
  obtain ⟨hscale, hunits⟩ := cast_scale num hden (-((num.log2 : ℤ) - den.log2))
  have hcompare : (scale num den (-((num.log2 : ℤ) - den.log2))).2
      ≤ (scale num den (-((num.log2 : ℤ) - den.log2))).1
        ↔ (2 : ℚ) ^ ((num.log2 : ℤ) - den.log2) ≤ num / den := by
    rw [← Nat.cast_le (α := ℚ), ← one_le_div (Nat.cast_pos.2 hscale), hunits, zpow_neg,
      ← div_eq_mul_inv, one_le_div (zpow_pos (by norm_num) _)]
  simp only [ratioLog2]
  split <;> rename_i hle
  · refine ⟨hcompare.1 hle, (div_lt_iff₀ hpos).2 ?_⟩
    calc (num : ℚ) < 2 ^ (num.log2 + 1 : ℤ) := hnumHigh
      _ = 2 ^ ((num.log2 : ℤ) - den.log2 + 1) * 2 ^ (den.log2 : ℤ) := by
          rw [← zpow_add₀ htwo]
          congr 1
          omega
      _ ≤ 2 ^ ((num.log2 : ℤ) - den.log2 + 1) * den :=
          mul_le_mul_of_nonneg_left hdenLow (zpow_nonneg (by norm_num) _)
  · refine ⟨(le_div_iff₀ hpos).2 ?_, ?_⟩
    · calc (2 : ℚ) ^ ((num.log2 : ℤ) - den.log2 - 1) * den
          ≤ 2 ^ ((num.log2 : ℤ) - den.log2 - 1) * 2 ^ (den.log2 + 1 : ℤ) :=
            mul_le_mul_of_nonneg_left hdenHigh.le (zpow_nonneg (by norm_num) _)
        _ = 2 ^ (num.log2 : ℤ) := by
            rw [← zpow_add₀ htwo]
            congr 1
            omega
        _ ≤ num := hnumLow
    · rw [sub_add_cancel]
      exact not_le.1 (mt hcompare.2 hle)

/-- Some units of `2 ^ e` are what a rational number is rounded to, and they fill a mantissa. -/
structure IsRounded (q : ℚ) (e : ℤ) (m : ℕ) : Prop where
  low : (m - 1 / 2) * 2 ^ e ≤ q
  high : q ≤ (m + 1 / 2) * 2 ^ e
  odd : m % 2 ≠ 0 → (m - 1 / 2) * 2 ^ e < q ∧ q < (m + 1 / 2) * 2 ^ e
  least : -1074 ≤ e
  full : -1074 < e → 2 ^ 52 * 2 ^ e ≤ q
  lt : q < 2 ^ 53 * 2 ^ e

/-- A quotient is rounded to units, and what comes out is made of them. -/
theorem exists_isRounded (negative : Bool) (hnum : num ≠ 0) (hden : 0 < den) :
    ∃ e m, IsRounded (num / den) e m ∧ ofRatio negative num den =
      if m = 0x20000000000000 then pack? negative 0x10000000000000 (e + 1)
      else pack? negative m e := by
  obtain ⟨hlog, hlogSucc⟩ := ratioLog2_bounds hnum hden
  set e := max (ratioLog2 num den - 52) (-1074) with he
  obtain ⟨hscale, hunits⟩ := cast_scale num hden (-e)
  obtain ⟨hlow, hhigh, hodd⟩ := nearestEven_bounds (scale num den (-e)).1 hscale
  have hpos : (0 : ℚ) < 2 ^ e := zpow_pos (by norm_num) _
  rw [hunits, zpow_neg, ← div_eq_mul_inv] at hlow hhigh hodd
  refine ⟨e, nearestEven (scale num den (-e)).1 (scale num den (-e)).2, ?_, ?_⟩
  · refine ⟨(le_div_iff₀ hpos).1 hlow, (div_le_iff₀ hpos).1 hhigh, fun h =>
      ⟨(lt_div_iff₀ hpos).1 (hodd h).1, (div_lt_iff₀ hpos).1 (hodd h).2⟩, le_max_right _ _,
      fun hfull => ?_, ?_⟩
    · have hlogeq : ratioLog2 num den = 52 + e := by omega
      rw [hlogeq, zpow_add₀ (by norm_num)] at hlog
      exact_mod_cast hlog
    · refine hlogSucc.trans_le ?_
      rw [← zpow_natCast, ← zpow_add₀ (by norm_num)]
      exact zpow_le_zpow_right₀ (by norm_num) (by push_cast; omega)
  · rw [ofRatio, if_neg hnum]

section

variable (h : IsRounded q e m)
include h

theorem IsRounded.le : m ≤ 2 ^ 53 := by
  have hpos : (0 : ℚ) < 2 ^ e := zpow_pos (by norm_num) _
  have hlt : (m - 1 / 2 : ℚ) < 2 ^ 53 := lt_of_mul_lt_mul_right (h.low.trans_lt h.lt) hpos.le
  have hsucc : (m : ℚ) < 2 ^ 53 + 1 := by linarith
  exact Nat.lt_succ_iff.1 (by exact_mod_cast hsucc)

theorem IsRounded.full_mantissa (he : -1074 < e) : 2 ^ 52 ≤ m := by
  have hpos : (0 : ℚ) < 2 ^ e := zpow_pos (by norm_num) _
  have hle : (2 ^ 52 : ℚ) ≤ m + 1 / 2 := le_of_mul_le_mul_right ((h.full he).trans h.high) hpos
  have hsucc : (2 ^ 52 : ℚ) < m + 1 := by linarith
  exact Nat.lt_succ_iff.1 (by exact_mod_cast hsucc)

/-- The number that is made of the units has what was rounded in its interval. -/
theorem IsRounded.isAround (hm : x.mantissa = m) (he : x.exponent = e) : x.IsAround q := by
  have hmagnitude : x.magnitude = m * 2 ^ e := by rw [magnitude, hm, he]
  have hulp : x.ulp = 2 ^ e := by rw [ulp, he]
  have hpos := x.ulp_pos
  have hhigh : x.magnitude + x.ulp / 2 = (m + 1 / 2) * 2 ^ e := by
    rw [hmagnitude, hulp]
    ring
  by_cases hpower : x.mantissa = 0x10000000000000 ∧ -1074 < x.exponent
  · have hfull := h.full (he ▸ hpower.2)
    have hgap := x.gap_pos
    rw [IsAround, if_pos (by rw [hpower.1]), hhigh]
    refine ⟨?_, h.high⟩
    rw [hmagnitude, ← hm, hpower.1]
    push_cast
    linarith
  · have hlow : x.magnitude - x.gap / 2 = (m - 1 / 2) * 2 ^ e := by
      rw [gap, if_neg hpower, hmagnitude, hulp]
      ring
    rw [IsAround, hlow, hhigh, hm]
    split
    · exact ⟨h.low, h.high⟩
    · rename_i hodd
      exact h.odd hodd

/-- The same where the units are one mantissa too many. -/
theorem IsRounded.isAround_of_carry (hcarry : m = 2 ^ 53) (hm : x.mantissa = 2 ^ 52)
    (he : x.exponent = e + 1) : x.IsAround q := by
  have hulp : x.ulp = 2 * 2 ^ e := by rw [ulp, he, zpow_add_one₀ (by norm_num), mul_comm]
  have hmagnitude : x.magnitude = 2 ^ 52 * (2 * 2 ^ e) := by
    rw [← hulp, magnitude, ulp, hm]
    push_cast
    rfl
  have hgap : x.gap = 2 ^ e := by
    have hleast := h.least
    rw [gap, if_pos ⟨hm, by omega⟩, hulp]
    ring
  have hlow := h.low
  have hlt := h.lt
  have hpos : (0 : ℚ) < 2 ^ e := zpow_pos (by norm_num) _
  rw [hcarry] at hlow
  push_cast at hlow
  rw [IsAround, if_pos (by rw [hm]; rfl), hmagnitude, hgap, hulp]
  constructor <;> linarith

end

/-! ### Quotients -/

theorem pack?_eq_none_iff : pack? negative m e = none ↔ ¬ IsNormalForm m e := by
  rw [pack?]
  split <;> simp_all

/-- A quotient lies in the interval of the number that it is rounded to. -/
theorem ofRatio_isAround (hden : 0 < den) (h : ofRatio negative num den = some x) :
    x.negative = negative ∧ x.IsAround (num / den) := by
  by_cases hnum : num = 0
  · rw [ofRatio, if_pos hnum] at h
    cases h
    have haround := (zero negative).isAround_magnitude
    rw [(magnitude_eq_zero_iff _).2 rfl] at haround
    rw [hnum, Nat.cast_zero, zero_div]
    exact ⟨rfl, haround⟩
  · obtain ⟨e, m, hrounded, hpack⟩ := exists_isRounded negative hnum hden
    rw [hpack] at h
    split at h <;> rename_i hcarry <;> obtain ⟨hs, hm, he⟩ := pack?_eq_some_iff.1 h
    · exact ⟨hs, hrounded.isAround_of_carry hcarry hm he⟩
    · exact ⟨hs, hrounded.isAround hm he⟩

/-- Only what is outside the format is not rounded. -/
theorem ofRatio_eq_none (hden : 0 < den) (h : ofRatio negative num den = none) :
    (2 ^ 54 - 1) * 2 ^ 970 ≤ (num : ℚ) / den := by
  have hnum : num ≠ 0 := by
    intro hnum
    rw [ofRatio, if_pos hnum] at h
    cases h
  obtain ⟨e, m, hrounded, hpack⟩ := exists_isRounded negative hnum hden
  have hle := hrounded.le
  have hleast := hrounded.least
  have hlow := hrounded.low
  have hunit : ∀ k : ℕ, (k : ℤ) ≤ e → (2 : ℚ) ^ k ≤ 2 ^ e := fun k hk => by
    rw [← zpow_natCast]
    exact zpow_le_zpow_right₀ (by norm_num) hk
  rw [hpack] at h
  split at h <;> rename_i hcarry <;> rw [pack?_eq_none_iff] at h
  · have he : 971 ≤ e := by
      by_contra hlt
      exact h ⟨by decide, by omega, by omega, .inl (by decide)⟩
    have htop := hunit 971 he
    rw [hcarry] at hlow
    push_cast at hlow
    rw [pow_succ] at htop
    generalize (2 : ℚ) ^ 970 = unit at htop ⊢
    linarith
  · have he : 972 ≤ e := by
      by_contra hlt
      refine h ⟨by omega, hleast, by omega, ?_⟩
      by_cases hfull : -1074 < e
      · exact .inl (hrounded.full_mantissa hfull)
      · exact .inr (by omega)
    have hfull := hrounded.full (by omega)
    have htop := hunit 972 he
    have hpos : (0 : ℚ) < 2 ^ 970 := pow_pos (by norm_num) _
    rw [pow_succ, pow_succ] at htop
    generalize (2 : ℚ) ^ 970 = unit at htop hpos ⊢
    linarith

/-! ### Decimals -/

/-- What has no digit on the grid of the least number is less than half of it. -/
theorem ten_zpow_le_half_ulp : (10 : ℚ) ^ (-330 : ℤ) ≤ 2 ^ (-1075 : ℤ) := by
  have hpow : 2 ^ 1075 ≤ 10 ^ 330 := two_pow_le_ten_pow (k := 11) (by decide) rfl
  rw [zpow_neg, zpow_neg]
  refine inv_anti₀ (zpow_pos (by norm_num) _) ?_
  exact_mod_cast hpow

/-- What has more than 310 digits is outside the format. -/
theorem bound_le_ten_zpow : ((2 : ℚ) ^ 54 - 1) * 2 ^ 970 ≤ 10 ^ (310 : ℤ) := by
  have hpow : 2 ^ 54 * 2 ^ 970 ≤ 10 ^ 310 :=
    calc 2 ^ 54 * 2 ^ 970 = (2 ^ 93) ^ 11 * 2 := by
          rw [← pow_add, ← pow_mul, ← pow_succ]
      _ ≤ (10 ^ 28) ^ 11 * 2 := Nat.mul_le_mul_right _ (Nat.pow_le_pow_left (by decide) _)
      _ ≤ (10 ^ 28) ^ 11 * 10 ^ 2 := Nat.mul_le_mul_left _ (by decide)
      _ = 10 ^ 310 := by rw [← pow_mul, ← pow_add]
  have hcast : (2 : ℚ) ^ 54 * 2 ^ 970 ≤ 10 ^ (310 : ℤ) := by exact_mod_cast hpow
  refine le_trans (mul_le_mul_of_nonneg_right ?_ (pow_nonneg (by norm_num) _)) hcast
  linarith

theorem ten_pow_le_digits {digits : ℕ} (h : digits ≠ 0) (e : ℤ) :
    (10 : ℚ) ^ ((Nat.toDigits 10 digits).length + e - 1) ≤ digits * 10 ^ e := by
  have hle : (10 : ℚ) ^ (((Nat.toDigits 10 digits).length - 1 : ℕ) : ℤ) ≤ digits := by
    rw [zpow_natCast]
    exact_mod_cast pow_le_of_length_toDigits h
  have hlength : 0 < (Nat.toDigits 10 digits).length := Nat.length_toDigits_pos
  calc (10 : ℚ) ^ ((Nat.toDigits 10 digits).length + e - 1)
      = 10 ^ (((Nat.toDigits 10 digits).length - 1 : ℕ) : ℤ) * 10 ^ e := by
        rw [← zpow_add₀ (by norm_num)]
        congr 1
        omega
    _ ≤ digits * 10 ^ e := mul_le_mul_of_nonneg_right hle (zpow_nonneg (by norm_num) _)

theorem digits_lt_ten_pow (digits : ℕ) (e : ℤ) :
    digits * (10 : ℚ) ^ e < 10 ^ ((Nat.toDigits 10 digits).length + e) := by
  have hlength : 0 < (Nat.toDigits 10 digits).length := Nat.length_toDigits_pos
  have hlt : (digits : ℚ) < 10 ^ ((Nat.toDigits 10 digits).length : ℤ) := by
    rw [zpow_natCast]
    exact_mod_cast (Nat.length_toDigits_le_iff (by decide) hlength).1 (le_refl _)
  rw [zpow_add₀ (by norm_num)]
  exact mul_lt_mul_of_pos_right hlt (zpow_pos (by norm_num) _)

/-- The decimal is the quotient that is rounded. -/
theorem ofDecimal_eq_ofRatio (negative : Bool) {digits : ℕ} {e : ℤ} (h0 : digits ≠ 0)
    (hhigh : (Nat.toDigits 10 digits).length + e ≤ 310)
    (hlow : -330 ≤ (Nat.toDigits 10 digits).length + e) :
    ∃ num den : ℕ, 0 < den ∧ (num : ℚ) / den = digits * 10 ^ e
      ∧ ofDecimal negative digits e = ofRatio negative num den := by
  simp only [ofDecimal]
  rw [if_neg h0, if_neg (by omega), if_neg (by omega)]
  split
  · rename_i he
    obtain ⟨k, rfl⟩ := Int.eq_ofNat_of_zero_le he
    refine ⟨_, _, Nat.one_pos, ?_, rfl⟩
    rw [Int.toNat_natCast, tenTo_eq, zpow_natCast]
    push_cast
    rw [div_one]
  · rename_i he
    obtain ⟨k, hk⟩ := Int.eq_ofNat_of_zero_le (show 0 ≤ -e by omega)
    refine ⟨_, _, tenTo_pos _, ?_, rfl⟩
    rw [hk, Int.toNat_natCast, tenTo_eq, ← neg_neg e, hk, zpow_neg, zpow_natCast]
    push_cast
    rfl

/-- A decimal lies in the interval of the number that it is rounded to. -/
theorem ofDecimal_isAround {digits : ℕ} (h : ofDecimal negative digits e = some x) :
    x.negative = negative ∧ x.IsAround (digits * 10 ^ e) := by
  have hzero := (zero negative).isAround_magnitude
  rw [(magnitude_eq_zero_iff _).2 rfl] at hzero
  by_cases h0 : digits = 0
  · simp only [ofDecimal, if_pos h0] at h
    cases h
    rw [h0, Nat.cast_zero, zero_mul]
    exact ⟨rfl, hzero⟩
  by_cases hhigh : (Nat.toDigits 10 digits).length + e ≤ 310
  swap
  · simp only [ofDecimal, if_neg h0, if_pos (not_le.1 hhigh)] at h
    cases h
  by_cases hlow : -330 ≤ (Nat.toDigits 10 digits).length + e
  · obtain ⟨num, den, hden, hvalue, hround⟩ := ofDecimal_eq_ofRatio negative h0 hhigh hlow
    rw [hround] at h
    rw [← hvalue]
    exact ofRatio_isAround hden h
  · -- What is left out is nearer to zero than to the least number.
    simp only [ofDecimal, if_neg h0, if_neg (not_lt.2 hhigh), if_pos (not_le.1 hlow)] at h
    cases h
    refine ⟨rfl, isAround_of_lt ?_ ?_⟩ <;> rw [(magnitude_eq_zero_iff _).2 rfl]
    · have hgap := (zero negative).gap_pos
      have hnonneg : (0 : ℚ) ≤ digits * 10 ^ e :=
        mul_nonneg (Nat.cast_nonneg _) (zpow_nonneg (by norm_num) _)
      linarith
    · have hulp : (zero negative).ulp / 2 = 2 ^ (-1075 : ℤ) := by
        rw [ulp, div_eq_mul_inv, ← zpow_sub_one₀ (by norm_num)]
        rfl
      rw [zero_add, hulp]
      calc (digits : ℚ) * 10 ^ e < 10 ^ ((Nat.toDigits 10 digits).length + e) :=
            digits_lt_ten_pow digits e
        _ ≤ 10 ^ (-330 : ℤ) := zpow_le_zpow_right₀ (by norm_num) (not_le.1 hlow).le
        _ ≤ 2 ^ (-1075 : ℤ) := ten_zpow_le_half_ulp

/-- A decimal that is not rounded is outside the format. -/
theorem ofDecimal_eq_none {digits : ℕ} (h : ofDecimal negative digits e = none) :
    (2 ^ 54 - 1) * 2 ^ 970 ≤ (digits : ℚ) * 10 ^ e := by
  by_cases h0 : digits = 0
  · simp only [ofDecimal, if_pos h0] at h
    cases h
  by_cases hhigh : (Nat.toDigits 10 digits).length + e ≤ 310
  · by_cases hlow : -330 ≤ (Nat.toDigits 10 digits).length + e
    · obtain ⟨num, den, hden, hvalue, hround⟩ := ofDecimal_eq_ofRatio negative h0 hhigh hlow
      rw [hround] at h
      rw [← hvalue]
      exact ofRatio_eq_none hden h
    · simp only [ofDecimal, if_neg h0, if_neg (not_lt.2 hhigh), if_pos (not_le.1 hlow)] at h
      cases h
  · calc ((2 : ℚ) ^ 54 - 1) * 2 ^ 970 ≤ 10 ^ (310 : ℤ) := bound_le_ten_zpow
      _ ≤ 10 ^ ((Nat.toDigits 10 digits).length + e - 1) :=
          zpow_le_zpow_right₀ (by norm_num) (by omega)
      _ ≤ digits * 10 ^ e := ten_pow_le_digits h0 e

end MockServer.Number.Binary64
