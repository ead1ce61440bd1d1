/-
What is read as a status.

A status is authored as a number or as a text.  A number is told by its exact value alone,
however it was written; a text is told by what it spells once it is trimmed.  Main statements:

* `natural?_eq_some_iff_value` — the numbers that are whole and not negative are read as their
  values;
* `ofJson?_eq_some_iff_denotes` — a value is read as a status exactly where it denotes a number
  from 100 to 999.
-/
import MockServer.Endpoint.Status
import MockServer.Proofs.Number.Spelling
import MockServer.Proofs.Number.Value

namespace MockServer.Status

open Number

/-- A binary64 number is read as the whole number that is its exact value, if there is one. -/
theorem natural?_double (x : Binary64) (n : ℕ) :
    natural? (.double x) = some n ↔ x.value = n := by
  -- The guard lets zero with a sign through: its value is zero all the same.
  have hguard : (!x.negative || x.isZero) = !(x.negative && !x.isZero) := by
    rw [Bool.not_and, Bool.not_not]
  show (if (x.isWhole && (!x.negative || x.isZero)) = true then some x.truncated else none) =
    some n ↔ _
  rw [Option.ite_none_right_eq_some, Option.some.injEq, hguard]
  cases hsign : x.negative && !x.isZero with
  | true =>
    have hne : x.value ≠ n := fun h => absurd (x.value_neg hsign) (by simp [h])
    simp [hne]
  | false =>
    rw [x.value_eq_magnitude hsign, Bool.not_false, Bool.and_true, x.isWhole_iff]
    constructor
    · rintro ⟨hwhole, rfl⟩
      exact hwhole
    · intro hvalue
      have htruncated : x.truncated = n := by
        have hfloor := x.floor_magnitude
        rw [hvalue, Int.floor_natCast] at hfloor
        omega
      exact ⟨by rw [hvalue, htruncated], htruncated⟩

/-- A number is read as the whole number that is its exact value, if there is one. -/
theorem natural?_eq_some_iff_value (x : JsonNumber) (n : ℕ) :
    natural? x = some n ↔ x.value = n := by
  cases x with
  | integer z fits =>
    show (if 0 ≤ z then some z.toNat else none) = some n ↔ (z : ℚ) = n
    rw [Option.ite_none_right_eq_some, Option.some.injEq]
    have hcast : (z : ℚ) = n ↔ z = n := by exact_mod_cast Iff.rfl
    rw [hcast]
    omega
  | double x => exact natural?_double x n

/-- Of the numbers that may be read, those from 100 to 999 are statuses. -/
theorem map_code_eq_some_iff (o : Option ℕ) (n : ℕ) :
    (o.bind ofNat?).map code = some n ↔ 100 ≤ n ∧ n ≤ 999 ∧ o = some n := by
  constructor
  · intro h
    obtain ⟨status, hstatus, rfl⟩ := Option.map_eq_some_iff.1 h
    obtain ⟨m, rfl, hm⟩ := Option.bind_eq_some_iff.1 hstatus
    exact ⟨status.inRange.1, status.inRange.2, congrArg some (ofNat?_eq_some_iff.1 hm).symm⟩
  · rintro ⟨hlow, hhigh, rfl⟩
    rw [Option.bind_some, ofNat?, dif_pos ⟨hlow, hhigh⟩, Option.map_some]

/-- **What is read as a status.**  A value is read as a number exactly where that number is from
100 to 999 and the value is a number of that exact value, or a text which, trimmed, spells it. -/
theorem ofJson?_eq_some_iff_denotes (v : Json) (n : ℕ) :
    (ofJson? v).map code = some n ↔
      100 ≤ n ∧ n ≤ 999 ∧
        ((∃ x, v = .number x ∧ x.value = n) ∨
          ∃ s, v = .string s ∧ Spells (Text.trim s).toList n) := by
  cases v with
  | number x =>
    rw [ofJson?, map_code_eq_some_iff, natural?_eq_some_iff_value]
    simp
  | string s =>
    rw [ofJson?, map_code_eq_some_iff, natural?_eq_some_iff, ← Text.toList_trim]
    simp
  | _ => simp [ofJson?]

end MockServer.Status
