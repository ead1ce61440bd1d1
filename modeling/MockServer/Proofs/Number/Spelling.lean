/-
Whole numbers as they are spelled.

A whole number is spelled by decimal digits, as many as one likes, with or without a plus sign.
`Spells` says this apart from any reader.  Main statements:

* `natural?_eq_some_iff` — the texts that are read as whole numbers are their spellings;
* `binary64?_of_spells` — read as a binary64 number, a spelling is the number that it spells,
  rounded once;
* `trimList_of_spells` — white space around a spelling is trimmed, and nothing else.
-/
import Mathlib.Data.List.Induction
import Mathlib.Data.List.TakeWhile
import MockServer.Number.Reading
import MockServer.Proofs.Number.Numeral
import MockServer.Text.Blank

namespace MockServer.Number

/-- Decimal digits and the number that they denote. -/
inductive Denotes : List Char → ℕ → Prop where
  | digit {c : Char} (h : c.isDigit = true) : Denotes [c] (digitValue c)
  | snoc {s : List Char} {n : ℕ} {c : Char} (hs : Denotes s n) (h : c.isDigit = true) :
      Denotes (s ++ [c]) (10 * n + digitValue c)

/-- A text that spells a whole number: digits, with or without a plus sign. -/
inductive Spells : List Char → ℕ → Prop where
  | plain {s : List Char} {n : ℕ} (h : Denotes s n) : Spells s n
  | signed {s : List Char} {n : ℕ} (h : Denotes s n) : Spells ('+' :: s) n

variable {s : List Char} {n : ℕ}

/-! ### Digits -/

theorem number_concat (s : List Char) (c : Char) :
    number (s ++ [c]) = 10 * number s + digitValue c := by
  rw [number_append, List.foldl_cons, List.foldl_nil, Nat.mul_comm]

theorem Denotes.isDigits (h : Denotes s n) : IsDigits s := by
  induction h with
  | digit h => exact ⟨List.cons_ne_nil _ _, List.forall_mem_singleton.2 h⟩
  | snoc _ h ih => exact ih.append (List.forall_mem_singleton.2 h)

theorem Denotes.number_eq (h : Denotes s n) : number s = n := by
  induction h with
  | digit h => exact Nat.zero_add _
  | snoc _ _ ih => rw [number_concat, ih]

theorem denotes_number (h : IsDigits s) : Denotes s (number s) := by
  induction s using List.reverseRecOn with
  | nil => exact absurd rfl h.nonempty
  | append_singleton s c ih =>
    obtain ⟨hs, hc⟩ := List.forall_mem_append.1 h.all
    have hc : c.isDigit = true := hc c List.mem_cons_self
    rw [number_concat]
    cases s with
    | nil =>
      show Denotes [c] (10 * 0 + digitValue c)
      rw [Nat.mul_zero, Nat.zero_add]
      exact .digit hc
    | cons d r => exact .snoc (ih ⟨List.cons_ne_nil _ _, hs⟩) hc

theorem denotes_iff : Denotes s n ↔ IsDigits s ∧ number s = n := by
  constructor
  · exact fun h => ⟨h.isDigits, h.number_eq⟩
  · rintro ⟨h, rfl⟩
    exact denotes_number h

theorem isDigits_iff : IsDigits s ↔ s ≠ [] ∧ s.all Char.isDigit = true := by
  rw [List.all_eq_true]
  exact ⟨fun h => ⟨h.nonempty, h.all⟩, fun h => ⟨h.1, h.2⟩⟩

/-- Digits do not begin with a character that is no digit. -/
theorem IsDigits.head?_ne (h : IsDigits s) {c : Char} (hc : c.isDigit = false) :
    s.head? ≠ some c := by
  intro hs
  rw [h.all c (List.mem_of_head? hs)] at hc
  cases hc

/-! ### Readers -/

/-- Without a plus sign, what is read is the whole text. -/
theorem natural?_of_head (h : s.head? ≠ some '+') :
    natural? s = if s ≠ [] ∧ s.all Char.isDigit then some (number s) else none := by
  unfold natural?
  extract_lets body
  have hbody : body = s := by
    unfold body
    split
    · exact absurd rfl h
    · rfl
  simp only [hbody]

theorem digits_eq_some_iff :
    (if s ≠ [] ∧ s.all Char.isDigit then some (number s) else none) = some n ↔ Denotes s n := by
  rw [denotes_iff, isDigits_iff, Option.ite_none_right_eq_some, Option.some.injEq]

/-- The texts that are read as whole numbers are their spellings. -/
theorem natural?_eq_some_iff : natural? s = some n ↔ Spells s n := by
  constructor
  · intro h
    by_cases hplus : s.head? = some '+'
    · obtain ⟨r, rfl⟩ := List.head?_eq_some_iff.1 hplus
      exact .signed (digits_eq_some_iff.1 h)
    · rw [natural?_of_head hplus] at h
      exact .plain (digits_eq_some_iff.1 h)
  · intro h
    cases h with
    | plain h =>
      rw [natural?_of_head (h.isDigits.head?_ne (by decide))]
      exact digits_eq_some_iff.2 h
    | signed h => exact digits_eq_some_iff.2 h

/-- Digits are read to their end, and nothing is left for a fraction or an exponent. -/
theorem binary64?_of_splitSign {r : List Char} (hsplit : splitSign s = (false, r))
    (h : Denotes r n) : binary64? s = Binary64.ofDecimal false n 0 := by
  have hall : ∀ c ∈ r, c.isDigit = true := h.isDigits.all
  simp only [binary64?, hsplit, List.takeWhile_eq_self_iff.2 hall, List.dropWhile_eq_nil_iff.2 hall,
    List.append_nil, h.number_eq]
  rw [if_neg (fun hnil => h.isDigits.nonempty hnil.1)]
  rfl

/-- A spelling is read as the number that it spells, rounded once. -/
theorem binary64?_of_spells (h : Spells s n) : binary64? s = Binary64.ofDecimal false n 0 := by
  cases h with
  | plain h =>
    refine binary64?_of_splitSign ?_ h
    unfold splitSign
    split
    · exact absurd rfl (h.isDigits.head?_ne (c := '-') (by decide))
    · exact absurd rfl (h.isDigits.head?_ne (c := '+') (by decide))
    · rfl
  | signed h => exact binary64?_of_splitSign rfl h

/-! ### White space around a spelling -/

/-- A text stands in another with nothing but white space around it. -/
def IsPadded (s padded : List Char) : Prop :=
  ∃ before after, padded = before ++ s ++ after ∧
    (∀ c ∈ before, Text.isBlank c = true) ∧ ∀ c ∈ after, Text.isBlank c = true

theorem isBlank_of_isDigit {c : Char} (h : c.isDigit = true) : Text.isBlank c = false := by
  simp only [Char.isDigit, Bool.and_eq_true, decide_eq_true_eq] at h
  have hlow : 48 ≤ c.toNat := h.1
  have hhigh : c.toNat ≤ 57 := h.2
  simp [Text.isBlank]
  omega

theorem Spells.not_isBlank (h : Spells s n) : ∀ c ∈ s, Text.isBlank c = false := by
  cases h with
  | plain h => exact fun c hc => isBlank_of_isDigit (h.isDigits.all c hc)
  | signed h =>
    exact List.forall_mem_cons.2 ⟨by decide, fun c hc => isBlank_of_isDigit (h.isDigits.all c hc)⟩

theorem Spells.ne_nil (h : Spells s n) : s ≠ [] := by
  cases h with
  | plain h => exact h.isDigits.nonempty
  | signed h => exact List.cons_ne_nil _ _

/-- Blanks are dropped up to a text that begins with none. -/
theorem dropWhile_isBlank_append {before rest : List Char} (hb : ∀ c ∈ before, Text.isBlank c = true)
    (hr : ∀ c ∈ rest.head?, Text.isBlank c = false) :
    (before ++ rest).dropWhile Text.isBlank = rest := by
  rw [List.dropWhile_append_of_pos hb]
  cases rest with
  | nil => rfl
  | cons c r => exact Text.dropWhile_isBlank_cons (hr c rfl)

/-- White space around a spelling is trimmed, and nothing else. -/
theorem trimList_of_spells {padded : List Char} (hs : Spells s n) (hp : IsPadded s padded) :
    Text.trimList padded = s := by
  obtain ⟨before, after, rfl, hbefore, hafter⟩ := hp
  have hfirst : ∀ c ∈ (s ++ after).head?, Text.isBlank c = false := by
    obtain ⟨d, r, rfl⟩ := List.exists_cons_of_ne_nil hs.ne_nil
    intro c hc
    cases hc
    exact hs.not_isBlank d List.mem_cons_self
  have hlast : ∀ c ∈ s.reverse.head?, Text.isBlank c = false := fun c hc =>
    hs.not_isBlank c (List.mem_reverse.1 (List.mem_of_head? hc))
  -- Trimmed at the front, and then, read backwards, at the end.
  rw [Text.trimList, List.append_assoc, dropWhile_isBlank_append hbefore hfirst,
    List.reverse_append,
    dropWhile_isBlank_append (fun c hc => hafter c (List.mem_reverse.1 hc)) hlast,
    List.reverse_reverse]

end MockServer.Number
