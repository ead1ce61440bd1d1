/-
The exact value of a numeral.

A numeral has an exact decimal value before anything is rounded.  The reader of binary64 numbers
rounds that value once, and the texts of numbers keep the decimals that they are written for: a
point that is placed by the exponent, zeros on either side and an exponent of their own are all
read back.  Main statements:

* `binary64?_eq`, `isNearest_of_exactValue?` — a binary64 number is read by rounding the decimal of
  its numeral, and what is read is nearest to its value;
* `exactValue?_integer`, `isPlain_integer` — the numeral of an integer has its value, and it is
  plain;
* `exactValue?_text` — in any notation, the text of a number has the value of its fewest digits.
-/
import MockServer.Proofs.Number.Quotient
import MockServer.Proofs.Number.Spelling

namespace MockServer.Number

/-- Splits off the digits behind a point. -/
def splitPoint : List Char → List Char × List Char
  | '.' :: r => (r.takeWhile Char.isDigit, r.dropWhile Char.isDigit)
  | r => ([], r)

theorem splitPoint_of_ne {rest : List Char} (h : ∀ r, rest = '.' :: r → False) :
    splitPoint rest = ([], rest) := by
  rw [splitPoint]
  exact h

/-- Reads a numeral without its sign, exactly. -/
def decimal? (body : List Char) : Option Decimal :=
  let whole := body.takeWhile Char.isDigit
  let (fraction, tail) := splitPoint (body.dropWhile Char.isDigit)
  if whole = [] ∧ fraction = [] then none
  else (exponentPart? tail).map fun e => ⟨number (whole ++ fraction), e - fraction.length⟩

/-- The exact value of a numeral. -/
def exactValue? (s : List Char) : Option ℚ :=
  (decimal? (splitSign s).2).map fun d => signed (splitSign s).1 d.value

/-- A binary64 number is read by rounding the decimal of its numeral once. -/
theorem binary64?_eq (s : List Char) :
    binary64? s = (decimal? (splitSign s).2).bind fun d =>
      Binary64.ofDecimal (splitSign s).1 d.digits d.exponent := by
  simp only [binary64?, decimal?]
  split
  · rename_i r hrest
    rw [hrest, splitPoint]
    split
    · rfl
    · rw [Option.bind_map]
      cases exponentPart? _ <;> rfl
  · rename_i hpoint
    rw [splitPoint_of_ne hpoint]
    split
    · rfl
    · rw [Option.bind_map]
      cases exponentPart? _ <;> rfl

/-- A numeral is read as the number that its exact value is rounded to, and it is read as none
only where that value is outside the format. -/
theorem isNearest_of_exactValue? {s : List Char} {q : ℚ} (h : exactValue? s = some q) :
    (∀ x, binary64? s = some x → Binary64.IsNearest q x)
      ∧ (|q| < (2 ^ 54 - 1) * 2 ^ 970 → ∃ x, binary64? s = some x) := by
  obtain ⟨d, hd, rfl⟩ := Option.map_eq_some_iff.1 h
  rw [binary64?_eq, hd, Option.bind_some]
  constructor
  · intro x hx
    obtain ⟨hsign, haround⟩ := Binary64.ofDecimal_isAround hx
    rw [← hsign]
    exact haround.isNearest
  · intro hbound
    refine Option.ne_none_iff_exists'.1 fun hnone => ?_
    have hnonneg : 0 ≤ d.value := mul_nonneg (Nat.cast_nonneg _) (zpow_nonneg (by norm_num) _)
    rw [abs_signed, abs_of_nonneg hnonneg] at hbound
    exact absurd hbound (not_lt.2 (Binary64.ofDecimal_eq_none hnone))

variable {s whole fraction tail : List Char} {e : ℤ}

/-! ### Parts of a numeral -/

theorem takeWhile_isDigit_append (tail : List Char) (hs : ∀ c ∈ s, c.isDigit = true)
    (ht : ∀ c ∈ tail.head?, c.isDigit = false) :
    (s ++ tail).takeWhile Char.isDigit = s ∧ (s ++ tail).dropWhile Char.isDigit = tail := by
  rw [List.takeWhile_append_of_pos hs, List.dropWhile_append_of_pos hs]
  cases tail with
  | nil => exact ⟨List.append_nil _, rfl⟩
  | cons c r =>
    have hc : ¬ c.isDigit = true := by simpa using ht c rfl
    rw [List.takeWhile_cons_of_neg hc, List.dropWhile_cons_of_neg hc, List.append_nil]
    exact ⟨rfl, rfl⟩

theorem decimal?_of_point (tail : List Char) (hw : IsDigits whole) (hf : ∀ c ∈ fraction, c.isDigit = true)
    (ht : ∀ c ∈ tail.head?, c.isDigit = false) :
    decimal? (whole ++ '.' :: (fraction ++ tail)) =
      (exponentPart? tail).map fun e => ⟨number (whole ++ fraction), e - fraction.length⟩ := by
  obtain ⟨hwhole, hrest⟩ := takeWhile_isDigit_append ('.' :: (fraction ++ tail)) hw.all
    (by rintro c ⟨⟩; decide)
  obtain ⟨hfraction, htail⟩ := takeWhile_isDigit_append tail hf ht
  simp only [decimal?, splitPoint, hwhole, hrest, hfraction, htail]
  rw [if_neg fun h => hw.nonempty h.1]

theorem decimal?_of_whole (tail : List Char) (hw : IsDigits whole) (ht : ∀ c ∈ tail.head?, c = 'e') :
    decimal? (whole ++ tail) = (exponentPart? tail).map fun e => ⟨number whole, e⟩ := by
  obtain ⟨hwhole, hrest⟩ := takeWhile_isDigit_append tail hw.all
    (by intro c hc; rw [ht c hc]; decide)
  have hpoint : ∀ r, tail = '.' :: r → False := by
    rintro r rfl
    cases ht _ rfl
  simp only [decimal?, hwhole, hrest, splitPoint_of_ne hpoint]
  rw [if_neg fun h => hw.nonempty h.1]
  simp

theorem exponentPart?_digits (e : ℤ) :
    exponentPart? ('e' :: (if e < 0 then '-' else '+') :: digits e.natAbs) = some e := by
  have hdigits := isDigits_iff.1 (isDigits_digits e.natAbs)
  have hsplit : splitSign ((if e < 0 then '-' else '+') :: digits e.natAbs)
      = (decide (e < 0), digits e.natAbs) := by
    split <;> rename_i hneg <;> simp [splitSign, hneg]
  simp only [exponentPart?, hsplit, number_digits, true_or, if_true]
  rw [if_pos hdigits, Option.some_inj]
  simp only [decide_eq_true_eq]
  split <;> omega

/-! ### Zeros -/

theorem number_append_zeros (s : List Char) (n : ℕ) :
    number (s ++ List.replicate n '0') = number s * 10 ^ n := by
  induction n with
  | zero => rw [List.replicate_zero, List.append_nil, pow_zero, mul_one]
  | succ n ih =>
    rw [List.replicate_succ', ← List.append_assoc, number_concat, ih, pow_succ,
      show digitValue '0' = 0 from rfl]
    ring

theorem number_zeros_append (n : ℕ) (s : List Char) :
    number (List.replicate n '0' ++ s) = number s := by
  have hzero := number_append_zeros [] n
  rw [List.nil_append, show number [] = 0 from rfl, zero_mul] at hzero
  rw [number_append, hzero]
  rfl

/-! ### The texts of numbers -/

/-- Without an exponent, the digits behind the point are the decimal places. -/
theorem decimal?_point (hw : IsDigits whole) (hf : ∀ c ∈ fraction, c.isDigit = true) :
    decimal? (whole ++ '.' :: fraction) =
      some ⟨number (whole ++ fraction), -(fraction.length : ℤ)⟩ := by
  have hread := decimal?_of_point [] hw hf nofun
  rw [List.append_nil] at hread
  rw [hread, exponentPart?, Option.map_some, zero_sub]

/-- Digits with a point placed by the exponent are read back. -/
theorem value_positionalText (d : Decimal) :
    (decimal? (positionalText d)).map Decimal.value = some d.value := by
  have hdigits := isDigits_digits d.digits
  have hnumber := number_digits d.digits
  simp only [positionalText]
  split
  · -- Zeros take the places up to the point, and one more stands behind it.
    rename_i hexp
    obtain ⟨k, hk⟩ := Int.eq_ofNat_of_zero_le hexp
    rw [hk, Int.toNat_natCast, decimal?_point (hdigits.append isDigit_of_mem_zeros) isDigits_zero.all,
      number_concat, number_append_zeros, hnumber, Option.map_some, Option.some_inj, Decimal.value,
      Decimal.value, hk, zpow_natCast, List.length_singleton, Nat.cast_one, zpow_neg_one,
      show digitValue '0' = 0 from rfl]
    push_cast
    ring
  · rename_i hneg
    split
    · -- The point is between the digits.
      rename_i hlen
      rw [decimal?_point ((isWhole_digits _).take (by omega)).digits
          fun c hc => hdigits.all c (List.mem_of_mem_drop hc), List.take_append_drop, hnumber,
        List.length_drop, show -(((digits d.digits).length - ((digits d.digits).length
          - (-d.exponent).toNat) : ℕ) : ℤ) = d.exponent by omega, Option.map_some]
    · -- The point is in front of the digits, with zeros between.
      rename_i hlen
      have hzeros := number_zeros_append (1 + ((-d.exponent).toNat - (digits d.digits).length))
        (digits d.digits)
      rw [List.replicate_add, List.append_assoc, hnumber] at hzeros
      have hread := decimal?_point isDigits_zero (List.forall_mem_append.2
        ⟨isDigit_of_mem_zeros (n := (-d.exponent).toNat - (digits d.digits).length), hdigits.all⟩)
      rw [List.replicate_one] at hzeros
      rw [hzeros, List.length_append, List.length_replicate,
        show -(((-d.exponent).toNat - (digits d.digits).length + (digits d.digits).length : ℕ) : ℤ)
          = d.exponent by omega] at hread
      rw [List.cons_append, List.cons_append]
      exact congrArg (Option.map Decimal.value) hread

/-- One digit, the others behind a point, and an exponent are read back. -/
theorem decimal?_exponentText (d : Decimal) : decimal? (exponentText d) = some d := by
  have hdigits := isWhole_digits d.digits
  have hlen := List.length_pos_iff.2 hdigits.digits.nonempty
  have hfirst := (hdigits.take Nat.one_ne_zero).digits
  have hnumber := number_digits d.digits
  have hleading : d.leading = d.exponent + (digits d.digits).length - 1 := rfl
  have htail := exponentPart?_digits d.leading
  simp only [exponentText]
  split
  · -- A single digit has no point behind it.
    rename_i hone
    rw [List.append_nil, decimal?_of_whole _ hfirst (by rintro c ⟨⟩; rfl), htail, Option.map_some,
      List.take_of_length_le hone.le, hnumber, hleading, hone]
    simp
  · rw [List.append_assoc, List.cons_append, decimal?_of_point _ hfirst
      (fun c hc => hdigits.digits.all c (List.mem_of_mem_drop hc)) (by rintro c ⟨⟩; decide), htail,
      Option.map_some, List.take_append_drop, hnumber, List.length_drop, hleading,
      show d.exponent + (digits d.digits).length - 1 - ((digits d.digits).length - 1 : ℕ)
        = d.exponent by omega]

theorem splitSign_of_isMagnitude (h : IsMagnitude s) : splitSign s = (false, s) := by
  obtain ⟨hw, _, _⟩ := h
  rename_i whole fraction exponent
  obtain ⟨c, r, rfl⟩ := List.exists_cons_of_ne_nil hw.digits.nonempty
  have hc : c.isDigit = true := hw.digits.all c List.mem_cons_self
  rw [List.cons_append, List.cons_append, splitSign]
  · rintro r ⟨⟩
    cases hc
  · rintro r ⟨⟩
    cases hc

/-- A sign in front of a numeral is the sign of its value. -/
theorem exactValue?_signed {q : ℚ} (h : IsMagnitude s) (hs : (decimal? s).map Decimal.value = some q)
    (negative : Bool) :
    exactValue? (if negative then '-' :: s else s) = some (signed negative q) := by
  have hmap : ∀ negative, (decimal? s).map (fun d => signed negative d.value)
      = some (signed negative q) := by
    intro negative
    rw [← Option.map_some, ← hs, Option.map_map]
    rfl
  cases negative with
  | true => exact hmap true
  | false =>
    rw [if_neg Bool.false_ne_true, exactValue?, splitSign_of_isMagnitude h]
    exact hmap false

/-- The numeral of an integer has its value. -/
theorem exactValue?_integer (z : ℤ) : exactValue? (integer z) = some (z : ℚ) := by
  have hread := decimal?_of_whole [] (isDigits_digits z.natAbs) nofun
  rw [List.append_nil, number_digits, exponentPart?, Option.map_some] at hread
  have hexact := exactValue?_signed (.of_whole (isWhole_digits z.natAbs)) (congrArg _ hread) (z < 0)
  simp only [decide_eq_true_eq] at hexact
  rw [integer, hexact, Option.some_inj, Decimal.value, zpow_zero, mul_one, Nat.cast_natAbs, signed]
  simp only [decide_eq_true_eq]
  split <;> rename_i hsign
  · rw [abs_of_neg hsign, Int.cast_neg, neg_neg]
  · rw [abs_of_nonneg (Int.le_of_not_gt hsign)]

/-- In any notation, the text of a number has the value of its fewest digits. -/
theorem exactValue?_text (style : Notation) (x : Binary64) :
    exactValue? (x.text style) = some (signed x.negative x.shortest.value) := by
  rw [Binary64.text]
  refine exactValue?_signed ?_ ?_ _
  · split
    · exact isMagnitude_positionalText (isWritable_shortest x)
    · exact isMagnitude_exponentText _
  · split
    · exact value_positionalText _
    · rw [decimal?_exponentText]
      rfl

/-! ### The plain form of an integer -/

/-- The plain decimal form of an integer: digits without a leading zero, behind a minus sign where
it is negative. -/
inductive IsPlain : List Char → ℤ → Prop where
  | natural {s : List Char} {n : ℕ} (hw : IsWhole s) (hs : Denotes s n) : IsPlain s n
  | negative {s : List Char} {n : ℕ} (h0 : n ≠ 0) (hw : IsWhole s) (hs : Denotes s n) :
      IsPlain ('-' :: s) (-n)

theorem isPlain_integer (z : ℤ) : IsPlain (integer z) z := by
  have hw := isWhole_digits z.natAbs
  have hs : Denotes (digits z.natAbs) z.natAbs := denotes_iff.2 ⟨hw.digits, number_digits _⟩
  rw [integer]
  split <;> rename_i hsign
  · have hplain := IsPlain.negative (by omega) hw hs
    rwa [show -(z.natAbs : ℤ) = z by omega] at hplain
  · have hplain := IsPlain.natural hw hs
    rwa [show (z.natAbs : ℤ) = z by omega] at hplain

end MockServer.Number
