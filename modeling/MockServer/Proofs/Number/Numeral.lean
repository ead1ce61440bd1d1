/-
The grammar of numerals.

A numeral is a whole part without leading zeros, with or without a sign, a fraction and an
exponent.  Every number is written as one.  A double takes the exponent of its first digit
to choose its notation, so its digits must not be all zeros when zeros are put behind them.
Main statements:

* `number_digits` — the plain numeral of a number is read back;
* `isNumeral_text` — every number is written as a numeral.
-/
import MockServer.Json.Printer
import MockServer.Proofs.Number.Shortest

namespace MockServer.Number

/-! ### The grammar -/

/-- At least one digit, and nothing else. -/
structure IsDigits (s : List Char) : Prop where
  nonempty : s ≠ []
  all : ∀ c ∈ s, c.isDigit = true

/-- The digits in front of a point: the first is no zero, unless it stands alone. -/
structure IsWhole (s : List Char) : Prop where
  digits : IsDigits s
  leading : s.head? = some '0' → s = ['0']

/-- A point with digits behind it, or nothing. -/
inductive IsFraction : List Char → Prop where
  | none : IsFraction []
  | digits {s : List Char} (h : IsDigits s) : IsFraction ('.' :: s)

/-- An exponent with its sign, or nothing. -/
inductive IsExponent : List Char → Prop where
  | none : IsExponent []
  | digits {sign : Char} {s : List Char} (signed : sign = '+' ∨ sign = '-') (h : IsDigits s) :
      IsExponent ('e' :: sign :: s)

/-- A numeral without a sign. -/
inductive IsMagnitude : List Char → Prop where
  | parts {whole fraction exponent : List Char} (hw : IsWhole whole) (hf : IsFraction fraction)
      (he : IsExponent exponent) : IsMagnitude (whole ++ fraction ++ exponent)

/-- A numeral. -/
inductive IsNumeral : List Char → Prop where
  | unsigned {s : List Char} (h : IsMagnitude s) : IsNumeral s
  | negative {s : List Char} (h : IsMagnitude s) : IsNumeral ('-' :: s)

/-! ### Parts of a numeral -/

section

variable {s t : List Char}

theorem IsDigits.append (hs : IsDigits s) (ht : ∀ c ∈ t, c.isDigit = true) :
    IsDigits (s ++ t) where
  nonempty := by simp [hs.nonempty]
  all := List.forall_mem_append.2 ⟨hs.all, ht⟩

theorem IsDigits.prepend (hs : ∀ c ∈ s, c.isDigit = true) (ht : IsDigits t) :
    IsDigits (s ++ t) where
  nonempty := by simp [ht.nonempty]
  all := List.forall_mem_append.2 ⟨hs, ht.all⟩

theorem IsDigits.head?_append (hs : IsDigits s) (t : List Char) :
    (s ++ t).head? = s.head? := by
  cases s with
  | nil => exact absurd rfl hs.nonempty
  | cons c r => rfl

theorem isDigit_of_mem_zeros {n : Nat} : ∀ c ∈ List.replicate n '0', c.isDigit = true := by
  intro c hc
  rw [List.eq_of_mem_replicate hc]
  rfl

theorem isDigits_zero : IsDigits ['0'] where
  nonempty := List.cons_ne_nil _ _
  all := List.forall_mem_singleton.2 rfl

theorem isWhole_zero : IsWhole ['0'] where
  digits := isDigits_zero
  leading _ := rfl

/-- The first digits of a whole part are a whole part. -/
theorem IsWhole.take (h : IsWhole s) {n : Nat} (hn : n ≠ 0) : IsWhole (s.take n) where
  digits := by
    refine ⟨fun hnil => ?_, fun c hc => h.digits.all c (List.mem_of_mem_take hc)⟩
    rcases List.take_eq_nil_iff.1 hnil with h0 | h0
    · exact hn h0
    · exact h.digits.nonempty h0
  leading hz := by
    rw [List.head?_take, if_neg hn] at hz
    rw [h.leading hz]
    exact List.take_of_length_le (Nat.pos_of_ne_zero hn)

/-- Zeros behind a whole part that is not zero. -/
theorem IsWhole.append_zeros (h : IsWhole s) (hz : s ≠ ['0']) (n : Nat) :
    IsWhole (s ++ List.replicate n '0') where
  digits := h.digits.append isDigit_of_mem_zeros
  leading h0 := by
    rw [h.digits.head?_append] at h0
    exact absurd (h.leading h0) hz

theorem IsMagnitude.of_whole (h : IsWhole s) : IsMagnitude s := by
  have := IsMagnitude.parts h .none .none
  rwa [List.append_nil, List.append_nil] at this

theorem IsMagnitude.of_point (hs : IsWhole s) (ht : IsDigits t) :
    IsMagnitude (s ++ '.' :: t) := by
  have := IsMagnitude.parts hs (.digits ht) .none
  rwa [List.append_nil] at this

end

/-! ### The plain numeral -/

theorem isDigits_digits (n : Nat) : IsDigits (digits n) where
  nonempty := Nat.toDigits_ne_nil
  all _ hc := Nat.isDigit_of_mem_toDigits (b := 10) (by decide) (by decide) hc

theorem digits_of_lt {n : Nat} (h : n < 10) : digits n = [Nat.digitChar n] :=
  Nat.toDigits_of_lt_base h

theorem digits_of_le {n : Nat} (h : 10 ≤ n) :
    digits n = digits (n / 10) ++ [Nat.digitChar (n % 10)] :=
  Nat.toDigits_of_base_le (by decide) h

/-- No numeral of a number but zero begins with a zero. -/
theorem head?_digits_ne_zero {n : Nat} (h : n ≠ 0) : (digits n).head? ≠ some '0' := by
  have hchar : ∀ d < 10, d ≠ 0 → Nat.digitChar d ≠ '0' := by decide
  induction n using Nat.strongRecOn with
  | ind n ih =>
    rcases Nat.lt_or_ge n 10 with hlt | hge
    · rw [digits_of_lt hlt, List.head?_cons, ne_eq, Option.some.injEq]
      exact hchar n hlt h
    · rw [digits_of_le hge, (isDigits_digits _).head?_append]
      exact ih (n / 10) (by omega) (by omega)

theorem isWhole_digits (n : Nat) : IsWhole (digits n) where
  digits := isDigits_digits n
  leading h := by
    by_cases hn : n = 0
    · rw [hn]
      rfl
    · exact absurd h (head?_digits_ne_zero hn)

theorem digits_ne_zero {n : Nat} (h : n ≠ 0) : digits n ≠ ['0'] := by
  intro h0
  apply head?_digits_ne_zero h
  rw [h0, List.head?_cons]

/-- The plain numeral of a number is read back. -/
theorem number_digits (n : Nat) : number (digits n) = n := by
  have hchar : ∀ d < 10, digitValue (Nat.digitChar d) = d := by decide
  induction n using Nat.strongRecOn with
  | ind n ih =>
    rcases Nat.lt_or_ge n 10 with hlt | hge
    · rw [digits_of_lt hlt, number, List.foldl_cons, List.foldl_nil, hchar n hlt]
      omega
    · rw [digits_of_le hge, number_append, ih (n / 10) (by omega), List.foldl_cons,
        List.foldl_nil, hchar (n % 10) (by omega)]
      omega

/-! ### Numbers are written as numerals -/

theorem isNumeral_integer (z : Int) : IsNumeral (integer z) := by
  rw [integer]
  split
  · exact .negative (.of_whole (isWhole_digits _))
  · exact .unsigned (.of_whole (isWhole_digits _))

/-- A decimal to which zeros are put only behind digits that are not all zeros. -/
def Decimal.IsWritable (d : Decimal) : Prop :=
  d.digits = 0 → d.exponent = 0

theorem isWritable_shortest (x : Binary64) : x.shortest.IsWritable := by
  intro h
  by_cases hz : x.isZero = true
  · rw [Binary64.shortest, if_pos hz]
  · exact absurd h (x.digits_shortest_ne_zero (by simpa using hz))

theorem isMagnitude_positionalText {d : Decimal} (h : d.IsWritable) :
    IsMagnitude (positionalText d) := by
  have hw := isWhole_digits d.digits
  simp only [positionalText]
  split
  · refine IsMagnitude.of_point ?_ isDigits_zero
    by_cases h0 : d.digits = 0
    · rw [h h0, Int.toNat_zero, List.replicate_zero, List.append_nil]
      exact hw
    · exact hw.append_zeros (digits_ne_zero h0) _
  · rename_i hneg
    split
    · rename_i hlen
      refine IsMagnitude.of_point (hw.take (by omega)) ⟨?_, fun c hc => ?_⟩
      · rw [ne_eq, List.drop_eq_nil_iff]
        omega
      · exact hw.digits.all c (List.mem_of_mem_drop hc)
    · exact IsMagnitude.of_point isWhole_zero (IsDigits.prepend isDigit_of_mem_zeros hw.digits)

theorem isMagnitude_exponentText (d : Decimal) : IsMagnitude (exponentText d) := by
  have hw := isWhole_digits d.digits
  rw [exponentText]
  refine IsMagnitude.parts (hw.take (by decide)) ?_ (.digits ?_ (isDigits_digits _))
  · split
    · exact .none
    · rename_i hlen
      have := List.length_pos_iff.2 hw.digits.nonempty
      refine .digits ⟨?_, fun c hc => hw.digits.all c (List.mem_of_mem_drop hc)⟩
      rw [ne_eq, List.drop_eq_nil_iff]
      omega
  · split
    · exact .inr rfl
    · exact .inl rfl

theorem isNumeral_double (style : Notation) (x : Binary64) : IsNumeral (x.text style) := by
  have hbody : IsMagnitude (if style.positional x.shortest.leading
      then positionalText x.shortest else exponentText x.shortest) := by
    split
    · exact isMagnitude_positionalText (isWritable_shortest x)
    · exact isMagnitude_exponentText _
  rw [Binary64.text]
  split
  · exact .negative hbody
  · exact .unsigned hbody

/-- Every number is written as a numeral. -/
theorem isNumeral_text (n : JsonNumber) : IsNumeral n.text := by
  cases n with
  | integer z fits => exact isNumeral_integer z
  | double x => exact isNumeral_double _ x

end MockServer.Number
