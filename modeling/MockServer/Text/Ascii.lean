/-
Letters, digits and case among the ASCII characters.

Case is changed for the letters `A` to `Z` and `a` to `z` alone; every other
character stands for itself.  Main statements:

* `toNat_toUpper`, `toNat_toLower` — a letter and its other case are 32 places apart;
* `isLower_toUpper`, `isUpper_toLower` — nothing of the old case is left;
* `sameIgnoringCase_iff` — two texts are equal ignoring case exactly when their lower-case
  forms are equal.
-/
namespace MockServer.Text

/-- An ASCII letter or digit. -/
def isAsciiAlphanumeric (c : Char) : Bool :=
  c.isAlphanum

/-- A visible ASCII character: anything from `!` to `~`. -/
def isAsciiGraphic (c : Char) : Bool :=
  0x21 ≤ c.toNat && c.toNat ≤ 0x7e

/-- The text with its ASCII letters in upper case. -/
def asciiUpper (s : String) : String :=
  String.ofList (s.toList.map Char.toUpper)

/-- The text with its ASCII letters in lower case. -/
def asciiLower (s : String) : String :=
  String.ofList (s.toList.map Char.toLower)

/-- Equality up to the case of ASCII letters. -/
def sameIgnoringCase (a b : String) : Bool :=
  asciiLower a == asciiLower b

/-! ### Case by numbers -/

section

variable {c : Char}

theorem isLower_iff_val : c.isLower = true ↔ 'a'.val ≤ c.val ∧ c.val ≤ 'z'.val := by
  show (decide (c.val ≥ 'a'.val) && decide (c.val ≤ 'z'.val)) = true ↔ _
  rw [Bool.and_eq_true, decide_eq_true_eq, decide_eq_true_eq]

theorem isUpper_iff_val : c.isUpper = true ↔ 'A'.val ≤ c.val ∧ c.val ≤ 'Z'.val :=
  decide_eq_true_iff

theorem isLower_iff : c.isLower = true ↔ 0x61 ≤ c.toNat ∧ c.toNat ≤ 0x7a :=
  isLower_iff_val.trans (and_congr UInt32.le_iff_toNat_le UInt32.le_iff_toNat_le)

theorem isUpper_iff : c.isUpper = true ↔ 0x41 ≤ c.toNat ∧ c.toNat ≤ 0x5a :=
  isUpper_iff_val.trans (and_congr UInt32.le_iff_toNat_le UInt32.le_iff_toNat_le)

theorem toUpper_eq_self (h : c.isLower = false) : c.toUpper = c :=
  dif_neg (mt isLower_iff_val.2 (ne_true_of_eq_false h))

theorem toLower_eq_self (h : c.isUpper = false) : c.toLower = c :=
  dif_neg (mt isUpper_iff_val.2 (ne_true_of_eq_false h))

theorem toNat_toUpper (h : c.isLower = true) : c.toUpper.toNat = c.toNat - 0x20 := by
  have hrange := isLower_iff.1 h
  have hupper : c.toUpper.val = c.val + ('A'.val - 'a'.val) := by
    delta Char.toUpper
    rw [dif_pos (isLower_iff_val.1 h)]
  have hsum : (c.val + ('A'.val - 'a'.val)).toNat = (c.toNat + 4294967264) % 4294967296 :=
    UInt32.toNat_add _ _
  show c.toUpper.val.toNat = _
  rw [hupper, hsum]
  omega

theorem toNat_toLower (h : c.isUpper = true) : c.toLower.toNat = c.toNat + 0x20 := by
  have hrange := isUpper_iff.1 h
  have hlower : c.toLower.val = c.val + ('a'.val - 'A'.val) := by
    delta Char.toLower
    rw [dif_pos (isUpper_iff_val.1 h)]
  have hsum : (c.val + ('a'.val - 'A'.val)).toNat = (c.toNat + 32) % 4294967296 :=
    UInt32.toNat_add _ _
  show c.toLower.val.toNat = _
  rw [hlower, hsum]
  omega

variable (c) in
theorem isLower_toUpper : c.toUpper.isLower = false := by
  rw [Bool.eq_false_iff, Ne, isLower_iff]
  cases h : c.isLower with
  | true =>
    have hrange := isLower_iff.1 h
    rw [toNat_toUpper h]
    omega
  | false =>
    rw [toUpper_eq_self h, ← isLower_iff, h]
    exact Bool.false_ne_true

variable (c) in
theorem isUpper_toLower : c.toLower.isUpper = false := by
  rw [Bool.eq_false_iff, Ne, isUpper_iff]
  cases h : c.isUpper with
  | true =>
    have hrange := isUpper_iff.1 h
    rw [toNat_toLower h]
    omega
  | false =>
    rw [toLower_eq_self h, ← isUpper_iff, h]
    exact Bool.false_ne_true

end

/-! ### Equality up to case -/

theorem sameIgnoringCase_iff {a b : String} :
    sameIgnoringCase a b = true ↔ asciiLower a = asciiLower b := by
  simp [sameIgnoringCase]

end MockServer.Text
