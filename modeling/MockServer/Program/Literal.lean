/-
Interpreted string literals.

`literal` puts a text between double quotes so that it stands on one line: quotes,
backslashes and control characters are escaped, and so are the byte order mark and
the two separators that some tools count as line ends.  `unquote?` reads such a
literal back.  Main statements:

* `unquote?_literal` — every text is read back from its literal;
* `literal_injective` — different texts have different literals.
-/
import MockServer.Text.Hex

namespace MockServer.Program

open Text (hexPadded hexNumber? hexDigit)

/-- One character inside a literal. -/
def literalChar (c : Char) : List Char :=
  if c = '\\' then ['\\', '\\']
  else if c = '"' then ['\\', '"']
  else if c = '\n' then ['\\', 'n']
  else if c = '\r' then ['\\', 'r']
  else if c = '\t' then ['\\', 't']
  else if c.toNat < 0x20 ∨ c.toNat = 0x7f then '\\' :: 'x' :: hexPadded 2 c.toNat
  else if c.toNat = 0xfeff ∨ c.toNat = 0x2028 ∨ c.toNat = 0x2029 then
    '\\' :: 'u' :: hexPadded 4 c.toNat
  else [c]

/-- The literal of a list of characters. -/
def literalList (s : List Char) : List Char :=
  '"' :: s.flatMap literalChar ++ ['"']

/-- The literal of a text. -/
def literal (s : String) : String :=
  String.ofList (literalList s.toList)

/-- The text that a literal denotes, from behind its opening quote. -/
def unquoteBody? : List Char → Option (List Char)
  | [] => none
  | c :: r =>
    if c = '"' then if r = [] then some [] else none
    else if c = '\\' then
      match r with
      | 'x' :: h₁ :: h₂ :: r =>
        (hexNumber? [h₁, h₂]).bind fun n => (unquoteBody? r).map (Char.ofNat n :: ·)
      | 'u' :: h₁ :: h₂ :: h₃ :: h₄ :: r =>
        (hexNumber? [h₁, h₂, h₃, h₄]).bind fun n => (unquoteBody? r).map (Char.ofNat n :: ·)
      | '\\' :: r => (unquoteBody? r).map ('\\' :: ·)
      | '"' :: r => (unquoteBody? r).map ('"' :: ·)
      | 'n' :: r => (unquoteBody? r).map ('\n' :: ·)
      | 'r' :: r => (unquoteBody? r).map ('\r' :: ·)
      | 't' :: r => (unquoteBody? r).map ('\t' :: ·)
      | _ => none
    else (unquoteBody? r).map (c :: ·)

/-- The text that a literal denotes. -/
def unquote? : List Char → Option (List Char)
  | '"' :: r => unquoteBody? r
  | _ => none

/-! ### Literals read back -/

theorem hexNumber?_two : ∀ {n : Nat}, n < 128 →
    hexNumber? [hexDigit (n / 16 % 16), hexDigit (n % 16)] = some n := by
  decide

theorem hexNumber?_four {n : Nat} (h : n = 0xfeff ∨ n = 0x2028 ∨ n = 0x2029) :
    hexNumber? (hexPadded 4 n) = some n := by
  rcases h with rfl | rfl | rfl <;> decide

theorem unquoteBody?_literalChar (c : Char) (t : List Char) :
    unquoteBody? (literalChar c ++ t) = (unquoteBody? t).map (c :: ·) := by
  unfold literalChar
  by_cases h₁ : c = '\\'
  · rw [if_pos h₁, h₁]
    rfl
  by_cases h₂ : c = '"'
  · rw [if_neg h₁, if_pos h₂, h₂]
    rfl
  by_cases h₃ : c = '\n'
  · rw [if_neg h₁, if_neg h₂, if_pos h₃, h₃]
    rfl
  by_cases h₄ : c = '\r'
  · rw [if_neg h₁, if_neg h₂, if_neg h₃, if_pos h₄, h₄]
    rfl
  by_cases h₅ : c = '\t'
  · rw [if_neg h₁, if_neg h₂, if_neg h₃, if_neg h₄, if_pos h₅, h₅]
    rfl
  rw [if_neg h₁, if_neg h₂, if_neg h₃, if_neg h₄, if_neg h₅]
  split
  · rename_i hc
    have hx := hexNumber?_two (n := c.toNat) (by omega)
    simp only [hexPadded, List.nil_append, List.cons_append]
    rw [unquoteBody?, if_neg (by decide), if_pos rfl]
    simp only [hx, Option.bind_some, Char.ofNat_toNat]
  · split
    · rename_i hc
      have hx := hexNumber?_four hc
      simp only [hexPadded, List.nil_append, List.cons_append] at hx ⊢
      rw [unquoteBody?, if_neg (by decide), if_pos rfl]
      simp only [hx, Option.bind_some, Char.ofNat_toNat]
    · rw [List.cons_append, List.nil_append, unquoteBody?.eq_def]
      simp only [if_neg h₁, if_neg h₂]

theorem unquoteBody?_flatMap (s : List Char) :
    unquoteBody? (s.flatMap literalChar ++ ['"']) = some s := by
  induction s with
  | nil =>
    rw [List.flatMap_nil, List.nil_append, unquoteBody?.eq_def]
    rfl
  | cons c s ih =>
    rw [List.flatMap_cons, List.append_assoc, unquoteBody?_literalChar, ih, Option.map_some]

/-- Every text is read back from its literal. -/
theorem unquote?_literal (s : List Char) : unquote? (literalList s) = some s :=
  unquoteBody?_flatMap s

/-- Different texts have different literals. -/
theorem literal_injective {s t : String} (h : literal s = literal t) : s = t := by
  have hl := congrArg String.toList h
  simp only [literal, String.toList_ofList] at hl
  have := congrArg unquote? hl
  rw [unquote?_literal, unquote?_literal, Option.some.injEq] at this
  exact String.toList_inj.1 this

end MockServer.Program
