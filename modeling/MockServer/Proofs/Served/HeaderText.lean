/-
The text of a number in a header.

A number is written on one of three ways: as an integer, as a double without its point and as the
fewest digits of a double.  Which of them is taken depends on how the number was authored, but
below two to the power of 53 the text does not: the ways are told apart there by the value alone.
Main statements:

* `isExactWhole_iff` — the point is dropped where the value is a whole number below that bound;
* `headerText_eq_integer` — such a value is written as the integer that it is;
* `headerText_tells_value` — the text depends on the value only, and the value is read back.
-/
import MockServer.Proofs.Number.Decimal
import MockServer.Served.HeaderText

namespace MockServer

open Number (Binary64 IsPlain binary64? exactValue?)

/-- What a number is that is read from a text: an integer is kept, a double is rounded to. -/
def JsonNumber.IsReadFrom : JsonNumber → ℚ → Prop
  | .integer z _, q => q = z
  | .double x, q => ∀ y, Binary64.IsNearest q y ↔ y.value = x.value

namespace Served

/-! ### The three ways -/

theorem toInt_eq_value {x : Binary64} (h : x.isWhole = true) : (x.toInt : ℚ) = x.value := by
  rw [Binary64.value_eq, Binary64.toInt, (Binary64.isWhole_iff x).1 h]
  split
  · push_cast
    rfl
  · rfl

/-- The point is dropped where the value is a whole number below two to the power of 53. -/
theorem isExactWhole_iff (x : Binary64) :
    isExactWhole x = true ↔ (∃ z : ℤ, x.value = z) ∧ |x.value| < 2 ^ 53 := by
  rw [isExactWhole, Bool.and_eq_true, decide_eq_true_eq]
  constructor
  · rintro ⟨hwhole, hlt⟩
    refine ⟨⟨x.toInt, (toInt_eq_value hwhole).symm⟩, ?_⟩
    rw [Binary64.abs_value, (Binary64.isWhole_iff x).1 hwhole]
    exact_mod_cast hlt
  · rintro ⟨⟨z, hz⟩, hlt⟩
    have hmagnitude : x.magnitude = (z.natAbs : ℤ) := by
      rw [← Binary64.abs_value, hz, Int.natCast_natAbs, Int.cast_abs]
    have hfloor := x.floor_magnitude
    rw [hmagnitude, Int.floor_intCast, Int.natCast_inj] at hfloor
    rw [Binary64.abs_value, hmagnitude, hfloor] at hlt
    refine ⟨(Binary64.isWhole_iff x).2 ?_, by exact_mod_cast hlt⟩
    rw [hmagnitude, hfloor]
    rfl

theorem headerText_integer (z : ℤ) (fits : FitsWord z) :
    headerText (.number (.integer z fits)) = String.ofList (Number.integer z) :=
  rfl

theorem headerText_double (x : Binary64) :
    headerText (.number (.double x)) =
      if isExactWhole x then String.ofList (Number.integer x.toInt)
      else String.ofList (x.text Number.Notation.json) :=
  rfl

/-- A whole number below the bound is written as the integer that it is, in whatever way it was
authored. -/
theorem headerText_eq_integer {n : JsonNumber} {z : ℤ} (hz : n.value = z)
    (hlt : |n.value| < 2 ^ 53) :
    headerText (.number n) = String.ofList (Number.integer z) := by
  cases n with
  | integer z' fits =>
    have hsame : z' = z := Int.cast_injective hz
    rw [headerText_integer, hsame]
  | double x =>
    have hexact := (isExactWhole_iff x).2 ⟨⟨z, hz⟩, hlt⟩
    have hwhole : x.isWhole = true := (Bool.and_eq_true_iff.1 hexact).1
    have hsame : x.toInt = z := by exact_mod_cast (toInt_eq_value hwhole).trans hz
    rw [headerText_double, if_pos hexact, hsame]

/-- A number that is no whole number is a double, and there is one double of its value. -/
theorem eq_of_value_eq {n n' : JsonNumber} (h : n.value = n'.value)
    (hfraction : ∀ z : ℤ, n.value ≠ z) : n = n' := by
  cases n with
  | integer z _ => exact absurd rfl (hfraction z)
  | double x =>
    cases n' with
    | integer z _ => exact absurd h (hfraction z)
    | double y =>
      have h0 : x.value ≠ 0 := by exact_mod_cast hfraction 0
      rw [Binary64.eq_of_value_eq h h0]

/-! ### What is read back -/

/-- Read as an exact decimal, the text of a number is rounded to that number. -/
theorem exists_exactValue (n : JsonNumber) :
    ∃ q, exactValue? (headerText (.number n)).toList = some q ∧ n.IsReadFrom q := by
  cases n with
  | integer z fits =>
    refine ⟨z, ?_, rfl⟩
    rw [headerText_integer, String.toList_ofList, Number.exactValue?_integer]
  | double x =>
    rw [headerText_double]
    split
    · rename_i hexact
      have hwhole : x.isWhole = true := (Bool.and_eq_true_iff.1 hexact).1
      refine ⟨x.value, ?_, fun y => Binary64.isNearest_value_iff⟩
      rw [String.toList_ofList, Number.exactValue?_integer, toInt_eq_value hwhole]
    · refine ⟨Number.signed x.negative x.shortest.value, ?_, fun y =>
        Binary64.isNearest_iff x.isAround_shortest⟩
      rw [String.toList_ofList, Number.exactValue?_text]

/-- Read as a double, the text of a double is a double of its value. -/
theorem exists_binary64 (x : Binary64) :
    ∃ y, binary64? (headerText (.number (.double x))).toList = some y ∧ y.value = x.value := by
  obtain ⟨q, hq, hread⟩ := exists_exactValue (.double x)
  obtain ⟨hnearest, hformat⟩ := Number.isNearest_of_exactValue? hq
  obtain ⟨y, hy⟩ := hformat ((hread x).2 rfl).bounded
  exact ⟨y, hy, (hread y).1 (hnearest y hy)⟩

/-- **The text of a number in a header tells its value and nothing else.**  Numbers of one value
below two to the power of 53 have one text, which for a whole number is its plain decimal form; an
integer of any size is written plainly.  Read as an exact decimal, the text of any number gives it
back: an integer is the decimal itself, and the decimal of a double is rounded to the doubles of
its value and to no other, which are also what is read from the text as a double. -/
theorem headerText_tells_value :
    (∀ n n' : JsonNumber, n.value = n'.value → |n.value| < 2 ^ 53 →
      headerText (.number n) = headerText (.number n'))
    ∧ (∀ (n : JsonNumber) (z : ℤ), n.value = z → |n.value| < 2 ^ 53 →
      IsPlain (headerText (.number n)).toList z)
    ∧ (∀ (z : ℤ) (fits : FitsWord z),
      IsPlain (headerText (.number (.integer z fits))).toList z)
    ∧ (∀ n : JsonNumber, ∃ q,
      exactValue? (headerText (.number n)).toList = some q ∧ n.IsReadFrom q)
    ∧ ∀ x : Binary64, ∃ y,
      binary64? (headerText (.number (.double x))).toList = some y ∧ y.value = x.value := by
  refine ⟨?_, ?_, ?_, exists_exactValue, exists_binary64⟩
  · intro n n' h hlt
    -- Only a whole number can be authored on two ways.
    by_cases hwhole : ∃ z : ℤ, n.value = z
    · obtain ⟨z, hz⟩ := hwhole
      rw [headerText_eq_integer hz hlt, headerText_eq_integer (h ▸ hz) (h ▸ hlt)]
    · rw [eq_of_value_eq h (not_exists.1 hwhole)]
  · intro n z hz hlt
    rw [headerText_eq_integer hz hlt, String.toList_ofList]
    exact Number.isPlain_integer z
  · intro z fits
    rw [headerText_integer, String.toList_ofList]
    exact Number.isPlain_integer z

end Served
end MockServer
