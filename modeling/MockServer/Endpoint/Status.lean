/-
Status codes of responses.

A `Status` is a number from 100 to 999, the range that a response may carry.
`ofJson?` reads an authored value: a whole number, or a string holding one.
-/
import MockServer.Json.Basic
import MockServer.Number.Reading
import MockServer.Text.Blank

namespace MockServer

/-- A status code that a response may carry. -/
structure Status where
  code : Nat
  inRange : 100 ≤ code ∧ code ≤ 999
  deriving DecidableEq

namespace Status

/-- The status of a response for which none was authored. -/
def standard : Status :=
  ⟨200, by decide⟩

/-- A number in the range as a status. -/
def ofNat? (n : Nat) : Option Status :=
  if h : 100 ≤ n ∧ n ≤ 999 then some ⟨n, h⟩ else none

/-- The magnitude of a number that is whole and not below zero. -/
def natural? : JsonNumber → Option Nat
  | .integer z _ => if 0 ≤ z then some z.toNat else none
  | .double x =>
    if x.isWhole && (!x.negative || x.isZero) then some x.truncated else none

/-- Reads an authored status. -/
def ofJson? : Json → Option Status
  | .number n => (natural? n).bind ofNat?
  | .string s => (Number.natural? (Text.trimList s.toList)).bind ofNat?
  | _ => none

theorem ofNat?_eq_some_iff {n : Nat} {s : Status} : ofNat? n = some s ↔ s.code = n := by
  unfold ofNat?
  constructor
  · intro h
    split at h
    · cases h
      rfl
    · cases h
  · rintro rfl
    rw [dif_pos s.inRange]

/-- The value of a status. -/
def toJson (s : Status) : Json :=
  Json.ofNat s.code

theorem ofJson?_toJson (s : Status) : ofJson? s.toJson = some s := by
  have h := s.inRange
  rw [toJson, Json.ofNat, JsonNumber.ofNat_eq_integer (by omega)]
  simp [ofJson?, natural?, ofNat?_eq_some_iff]

end Status
end MockServer
