/-
What is read as a delay.

An authored delay passes through binary64, which rounds whole numbers that are large and has no
room for the largest.  Neither matters: what can be slept is far below the numbers that are
rounded, and rounding does not bring any other number there.  Main statements:

* `ofJson?_number_iff` — a number is read as the floor of its exact value;
* `ofJson?_string_iff` — a text is read as the number that it spells, however long it is;
* `ofJson?_floor_or_spelled` — both, with the bounds of a delay and what they mean for the
  delays that stand in a program.
-/
import MockServer.Proofs.Number.Rounding
import MockServer.Proofs.Number.Spelling
import MockServer.Proofs.Program.Embedded

namespace MockServer

namespace Delay

open Number

variable {n : ℕ} {d : Delay}

theorem milliseconds_lt (d : Delay) : d.milliseconds < 2 ^ 53 := by
  have h := d.inRange.2
  simp only [longest] at h
  omega

/-! ### Numbers -/

/-- A binary64 number is read as the floor of its exact value. -/
theorem ofBinary64?_eq_some_iff (x : Binary64) :
    ofBinary64? x = some d ↔ ⌊x.value⌋ = d.milliseconds := by
  have hpos := d.inRange.1
  rw [ofBinary64?]
  cases hsign : x.negative && !x.isZero with
  | true =>
    -- A number just below zero has the floor -1, where the integer part would be 0.
    have hfloor : ⌊x.value⌋ < 0 := Int.floor_lt.2 (by exact_mod_cast x.value_neg hsign)
    exact iff_of_false (by simp) (by omega)
  | false =>
    rw [if_neg Bool.false_ne_true, ofNat?_eq_some_iff, x.value_eq_magnitude hsign,
      x.floor_magnitude, Int.natCast_inj, eq_comm]

/-- A whole number that passes through binary64 is read as itself. -/
theorem bind_ofRatio_eq_some_iff (negative : Bool) (n : ℕ) :
    (Binary64.ofRatio negative n 1).bind ofBinary64? = some d ↔
      negative = false ∧ n = d.milliseconds := by
  have hpos := d.inRange.1
  by_cases hexact : n < 2 ^ 53
  · obtain ⟨x, hx, hneg, hmag⟩ := Binary64.exists_ofRatio_of_lt negative hexact
    rw [hx, Option.bind_some, ofBinary64?_eq_some_iff, x.value_eq, hneg, hmag]
    cases negative with
    | false =>
      rw [if_neg Bool.false_ne_true, Int.floor_natCast, Int.natCast_inj]
      exact (and_iff_right rfl).symm
    | true =>
      have hfloor : ⌊-(n : ℚ)⌋ = -(n : ℤ) := by
        rw [← Int.cast_natCast, ← Int.cast_neg, Int.floor_intCast]
      rw [if_pos rfl, hfloor]
      exact iff_of_false (by omega) (by simp)
  · -- What is rounded, or too large, is no delay, and rounding does not make it one.
    have hne : n ≠ d.milliseconds := by
      have := d.milliseconds_lt
      omega
    refine iff_of_false (fun h => ?_) fun h => hne h.2
    obtain ⟨x, hx, hread⟩ := Option.bind_eq_some_iff.1 h
    obtain ⟨hneg, hle⟩ := Binary64.le_magnitude_of_ofRatio (not_lt.1 hexact) hx
    rw [ofBinary64?_eq_some_iff, x.value_eq, hneg] at hread
    cases negative with
    | false =>
      have hfloor : (2 ^ 53 : ℤ) ≤ ⌊x.magnitude⌋ := Int.le_floor.2 (by exact_mod_cast hle)
      rw [if_neg Bool.false_ne_true] at hread
      have := d.milliseconds_lt
      omega
    | true =>
      have hfloor : ⌊-x.magnitude⌋ < 1 := Int.floor_lt.2 (by
        have := x.magnitude_nonneg
        push_cast
        linarith)
      rw [if_pos rfl] at hread
      omega

/-- A number is read as the floor of its exact value. -/
theorem ofJson?_number_iff (x : JsonNumber) :
    ofJson? (.number x) = some d ↔ ⌊x.value⌋ = d.milliseconds := by
  cases x with
  | integer z fits =>
    show (Binary64.ofRatio (decide (z < 0)) z.natAbs 1).bind ofBinary64? = some d ↔ ⌊(z : ℚ)⌋ = _
    rw [bind_ofRatio_eq_some_iff, decide_eq_false_iff_not, Int.floor_intCast]
    omega
  | double x => exact ofBinary64?_eq_some_iff x

/-! ### Texts -/

/-- Digits that pass through binary64 are read as their number, also where they are too many. -/
theorem bind_ofDecimal_eq_some_iff (n : ℕ) :
    (Binary64.ofDecimal false n 0).bind ofBinary64? = some d ↔ n = d.milliseconds := by
  simp only [Binary64.ofDecimal, Int.add_zero]
  split
  · rename_i hzero
    have hread := bind_ofRatio_eq_some_iff (d := d) false 0
    rw [hzero]
    exact hread.trans (and_iff_right rfl)
  · rename_i hzero
    split
    · rename_i hlong
      -- More digits than binary64 has room for: too large for a delay by far.
      have hlength : 16 ≤ (Nat.toDigits 10 n).length - 1 := by omega
      have hlarge : 2 ^ 53 ≤ n :=
        calc 2 ^ 53 ≤ 10 ^ 16 := by norm_num
          _ ≤ 10 ^ ((Nat.toDigits 10 n).length - 1) := Nat.pow_le_pow_right (by decide) hlength
          _ ≤ n := pow_le_of_length_toDigits hzero
      have := d.milliseconds_lt
      exact iff_of_false (by simp) (by omega)
    · have hread := bind_ofRatio_eq_some_iff (d := d) false n
      rw [if_neg (by omega), if_pos (le_refl _), Int.toNat_zero, show tenTo 0 = 1 from rfl,
        Nat.mul_one]
      exact hread.trans (and_iff_right rfl)

/-- A text is read as the number that it spells. -/
theorem ofJson?_string_iff {spelling : List Char} (hs : Spells spelling n) {s : String}
    (hp : IsPadded spelling s.toList) : ofJson? (.string s) = some d ↔ n = d.milliseconds := by
  rw [ofJson?, trimList_of_spells hs hp, binary64?_of_spells hs, bind_ofDecimal_eq_some_iff]

/-! ### Bounds -/

/-- What is read as one whole number is that number, where it is a delay. -/
theorem map_milliseconds_eq_some_iff {o : Option Delay} {z : ℤ}
    (h : ∀ d, o = some d ↔ z = milliseconds d) (k : ℕ) :
    o.map milliseconds = some k ↔ z = k ∧ 1 ≤ k ∧ k ≤ 9223372036854 := by
  have hlongest : longest = 9223372036854 := by decide
  constructor
  · intro hk
    obtain ⟨d, hd, rfl⟩ := Option.map_eq_some_iff.1 hk
    exact ⟨(h d).1 hd, d.inRange.1, hlongest ▸ d.inRange.2⟩
  · rintro ⟨hz, hlow, hhigh⟩
    exact Option.map_eq_some_iff.2 ⟨⟨k, hlow, hlongest ▸ hhigh⟩, (h _).2 hz, rfl⟩

end Delay

/-! ### Delays in a program -/

namespace Served

/-- What is written under `delayMs` in the value of a table: one for each method of each group
that has a delay. -/
def delayMembers (table : Json) : List Json :=
  (table.array?.getD []).flatMap fun group =>
    ((group.get? "methods").elim [] Json.members).filterMap fun m => m.2.get? "delayMs"

theorem get?_delayMs (s : Served) : s.toJson.get? "delayMs" = s.delay.map Delay.toJson := by
  obtain ⟨status, contentType, headers, delay, body⟩ := s
  cases delay <;> cases body <;> rfl

theorem exists_delay_of_mem {table : RouteTable} {v : Json}
    (h : v ∈ delayMembers (tableToJson table)) : ∃ d : Delay, v = d.toJson := by
  obtain ⟨group, hgroup, hv⟩ := List.mem_flatMap.1 h
  obtain ⟨g, -, rfl⟩ := List.mem_map.1 hgroup
  obtain ⟨m, hm, hv⟩ := List.mem_filterMap.1 hv
  obtain ⟨x, -, rfl⟩ := List.mem_map.1 hm
  rw [get?_delayMs] at hv
  obtain ⟨d, -, rfl⟩ := Option.map_eq_some_iff.1 hv
  exact ⟨d, rfl⟩

/-- A delay that stands in a program is an integer that 63 bits hold, also in nanoseconds. -/
theorem integer_of_mem_delayMembers {table : RouteTable} {v : Json}
    (h : v ∈ delayMembers (tableToJson table)) :
    ∃ (n : ℕ) (fits : FitsWord n), v = .number (.integer n fits) ∧ 1 ≤ n ∧ n ≤ 2 ^ 63 - 1 ∧
      n * 1000000 ≤ 2 ^ 63 - 1 := by
  obtain ⟨d, rfl⟩ := exists_delay_of_mem h
  have hlow := d.inRange.1
  have hnano := d.nanoseconds_lt
  refine ⟨d.milliseconds, ⟨by omega, by omega⟩, ?_, hlow, by omega, by omega⟩
  rw [Delay.toJson, Json.ofNat, JsonNumber.ofNat_eq_integer (by omega)]

end Served

namespace Delay

open Number

/-- **What is read as a delay.**  A number is read as the floor of its exact value and a text as
the number that it spells, whatever stands around it of white space, where that is at least one
millisecond and no more than can be slept; so a number and its spelling are read alike, and any
other value is no delay.  What stands in a program for a delay is an integer that 63 bits hold,
also in nanoseconds. -/
theorem ofJson?_floor_or_spelled :
    (∀ (x : JsonNumber) (k : ℕ), (ofJson? (.number x)).map milliseconds = some k ↔
        ⌊x.value⌋ = k ∧ 1 ≤ k ∧ k ≤ 9223372036854)
    ∧ (∀ {spelling n}, Spells spelling n → ∀ {s : String}, IsPadded spelling s.toList →
        (∀ k : ℕ, (ofJson? (.string s)).map milliseconds = some k ↔
          (n : ℤ) = k ∧ 1 ≤ k ∧ k ≤ 9223372036854)
        ∧ ∀ fits : FitsWord n, ofJson? (.string s) = ofJson? (.number (.integer n fits)))
    ∧ (ofJson? .null = none ∧ (∀ b, ofJson? (.bool b) = none)
        ∧ (∀ items, ofJson? (.array items) = none) ∧ ∀ ms, ofJson? (.object ms) = none)
    ∧ ∀ (table : RouteTable) (name : String),
        Program.tableText? (Program.ofTable table name).mainFile =
            some (Served.tableToJson table).text
        ∧ ∀ v ∈ Served.delayMembers (Served.tableToJson table),
          ∃ (n : ℕ) (fits : FitsWord n), v = .number (.integer n fits) ∧ 1 ≤ n ∧ n ≤ 2 ^ 63 - 1 ∧
            n * 1000000 ≤ 2 ^ 63 - 1 := by
  refine ⟨fun x => map_milliseconds_eq_some_iff fun d => ofJson?_number_iff x, ?_,
    ⟨rfl, fun _ => rfl, fun _ => rfl, fun _ => rfl⟩, fun table name =>
    ⟨Program.tableText?_ofTable table name, fun v hv => Served.integer_of_mem_delayMembers hv⟩⟩
  intro spelling n hs s hp
  constructor
  · refine map_milliseconds_eq_some_iff fun d => ?_
    rw [ofJson?_string_iff hs hp, Int.natCast_inj]
  · intro fits
    ext d
    rw [ofJson?_string_iff hs hp, ofJson?_number_iff, JsonNumber.value, Int.cast_natCast,
      Int.floor_natCast, Int.natCast_inj]

/-- A spelling with a plus sign, a leading zero and white space on both sides. -/
theorem ofJson?_padded_spelling :
    Spells ['+', '0', '2', '5', '0'] 250 ∧ IsPadded ['+', '0', '2', '5', '0'] "\t +0250 ".toList
      ∧ (ofJson? (.string "\t +0250 ")).map milliseconds = some 250 := by
  have hs : Spells ['+', '0', '2', '5', '0'] 250 :=
    .signed (denotes_number (s := ['0', '2', '5', '0']) (isDigits_iff.2 (by decide)))
  have hp : IsPadded ['+', '0', '2', '5', '0'] "\t +0250 ".toList :=
    ⟨['\t', ' '], [' '], by decide, List.all_eq_true.1 (by decide), List.all_eq_true.1 (by decide)⟩
  exact ⟨hs, hp, ((ofJson?_floor_or_spelled.2.1 hs hp).1 250).2 (by decide)⟩

end Delay
end MockServer
