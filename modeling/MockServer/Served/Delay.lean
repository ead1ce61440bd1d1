/-
Delays before a response.

A `Delay` is a whole number of milliseconds, at least one and at most the longest
that a 64-bit count of nanoseconds holds.  `ofJson?` reads an authored value: a
number, or a string holding one, its fraction dropped.
-/
import MockServer.Json.Basic
import MockServer.Number.Reading
import MockServer.Text.Blank

namespace MockServer

/-- The longest delay in milliseconds. -/
def Delay.longest : Nat :=
  0x7fffffffffffffff / 1000000

/-- A delay in milliseconds. -/
structure Delay where
  milliseconds : Nat
  inRange : 1 ≤ milliseconds ∧ milliseconds ≤ Delay.longest
  deriving DecidableEq

namespace Delay

/-- A number in the range as a delay. -/
def ofNat? (n : Nat) : Option Delay :=
  if h : 1 ≤ n ∧ n ≤ longest then some ⟨n, h⟩ else none

/-- A number that is not below zero as a delay. -/
def ofBinary64? (x : Number.Binary64) : Option Delay :=
  if x.negative && !x.isZero then none else ofNat? x.truncated

/-- A JSON number as a binary64 number. -/
def binary64? : JsonNumber → Option Number.Binary64
  | .integer z _ => Number.Binary64.ofRatio (decide (z < 0)) z.natAbs 1
  | .double x => some x

/-- Reads an authored delay. -/
def ofJson? : Json → Option Delay
  | .number n => (binary64? n).bind ofBinary64?
  | .string s => (Number.binary64? (Text.trimList s.toList)).bind ofBinary64?
  | _ => none

theorem ofNat?_eq_some_iff {n : Nat} {d : Delay} : ofNat? n = some d ↔ d.milliseconds = n := by
  unfold ofNat?
  constructor
  · intro h
    split at h
    · cases h
      rfl
    · cases h
  · rintro rfl
    rw [dif_pos d.inRange]

/-- A delay in nanoseconds fits 63 bits. -/
theorem nanoseconds_lt (d : Delay) : d.milliseconds * 1000000 < 0x8000000000000000 := by
  have := d.inRange.2
  simp only [longest] at this
  omega

/-- The value of a delay. -/
def toJson (d : Delay) : Json :=
  Json.ofNat d.milliseconds

end Delay
end MockServer
