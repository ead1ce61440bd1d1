/-
Decimal digits.

`digits n` is the plain numeral of a natural number, `number` reads a list of
digits, and `integer` writes an integer with a leading minus sign where it is
negative.  Main statement: `digitValue_lt` — a digit's value is below ten.
-/
namespace MockServer.Number

/-- The plain decimal numeral of `n`. -/
def digits (n : Nat) : List Char :=
  Nat.toDigits 10 n

/-- The value of a decimal digit. -/
def digitValue (c : Char) : Nat :=
  c.toNat - 48

/-- The number that a list of decimal digits denotes. -/
def number (s : List Char) : Nat :=
  s.foldl (fun n c => n * 10 + digitValue c) 0

/-- The numeral of an integer. -/
def integer (z : Int) : List Char :=
  if z < 0 then '-' :: digits z.natAbs else digits z.natAbs

theorem digitValue_lt {c : Char} (h : c.isDigit = true) : digitValue c < 10 := by
  simp only [Char.isDigit, Bool.and_eq_true, decide_eq_true_eq] at h
  have h2 : c.toNat ≤ 57 := h.2
  rw [digitValue]
  omega

theorem number_append (s t : List Char) :
    number (s ++ t) = t.foldl (fun n c => n * 10 + digitValue c) (number s) := by
  simp [number]

end MockServer.Number
