/-
Interpreted literals by the rules of their language.

`interpreted?` reads any interpreted string literal to the bytes that it denotes: plain
characters stand for their own bytes, and a backslash begins an escape for one byte or
for one character.  It knows every escape of the language, also those that `literal`
never writes.  Main statements:

* `interpreted?_literal` — a literal denotes the bytes of its text;
* `isQuoted_literal` — it ends at the first quote that is not escaped;
* `isPlain_of_mem_literal` — it holds no control character and no other character that
  some reader takes for the end of a line.
-/
import MockServer.Program.Literal
import MockServer.Text.Bytes

namespace MockServer.Program

open Text (hexPadded hexNumber? hexDigit)

/-! ### The rules -/

/-- The byte for which an escape of one letter stands. -/
def escapedByte? : Char → Option UInt8
  | 'a' => some 7
  | 'b' => some 8
  | 'f' => some 12
  | 'n' => some 10
  | 'r' => some 13
  | 't' => some 9
  | 'v' => some 11
  | '\\' => some 92
  | '"' => some 34
  | _ => none

/-- The value of an octal digit. -/
def octalValue? (c : Char) : Option Nat :=
  if '0' ≤ c ∧ c ≤ '7' then some (c.toNat - 48) else none

/-- The byte of three octal digits. -/
def octalByte? (digits : List Char) : Option UInt8 :=
  (digits.foldlM (fun n c => (octalValue? c).map (n * 8 + ·)) 0).bind fun n =>
    if n < 256 then some (UInt8.ofNat n) else none

/-- The bytes of the character with a number; surrogates and numbers past the last
character name none. -/
def scalarBytes? (n : Nat) : Option (List UInt8) :=
  if n.isValidChar then some (String.utf8EncodeChar (Char.ofNat n)) else none

/-- The bytes that a literal denotes, from behind its opening quote. -/
def interpretedBody? : List Char → Option (List UInt8)
  | [] => none
  | c :: r =>
    if c = '"' then if r = [] then some [] else none
    else if c = '\n' then none
    else if c = '\\' then
      match r with
      | 'x' :: h₁ :: h₂ :: r =>
        (hexNumber? [h₁, h₂]).bind fun n => (interpretedBody? r).map (UInt8.ofNat n :: ·)
      | 'u' :: h₁ :: h₂ :: h₃ :: h₄ :: r =>
        ((hexNumber? [h₁, h₂, h₃, h₄]).bind scalarBytes?).bind fun bytes =>
          (interpretedBody? r).map (bytes ++ ·)
      | 'U' :: h₁ :: h₂ :: h₃ :: h₄ :: h₅ :: h₆ :: h₇ :: h₈ :: r =>
        ((hexNumber? [h₁, h₂, h₃, h₄, h₅, h₆, h₇, h₈]).bind scalarBytes?).bind fun bytes =>
          (interpretedBody? r).map (bytes ++ ·)
      | e :: r =>
        match escapedByte? e with
        | some byte => (interpretedBody? r).map (byte :: ·)
        | none =>
          match r with
          | o₂ :: o₃ :: r =>
            (octalByte? [e, o₂, o₃]).bind fun byte => (interpretedBody? r).map (byte :: ·)
          | _ => none
      | [] => none
    else (interpretedBody? r).map (String.utf8EncodeChar c ++ ·)

/-- The bytes that an interpreted literal denotes; `none` for what is no such literal. -/
def interpreted? : List Char → Option (List UInt8)
  | '"' :: r => interpretedBody? r
  | _ => none

example : interpreted? "\"a\\n\\101\\xff\\u00e9\"".toList = some [97, 10, 65, 255, 195, 169] := by
  cbv

/-- A text inside quotes: a quote stands in it only behind a backslash. -/
inductive IsQuotedBody : List Char → Prop where
  | nil : IsQuotedBody []
  | plain {c : Char} {r : List Char} (quote : c ≠ '"') (backslash : c ≠ '\\')
      (rest : IsQuotedBody r) : IsQuotedBody (c :: r)
  | escaped {c : Char} {r : List Char} (rest : IsQuotedBody r) : IsQuotedBody ('\\' :: c :: r)

/-- A text whose first and last characters are quotes, and no other unescaped ones. -/
def IsQuoted (s : List Char) : Prop :=
  ∃ body, s = '"' :: body ++ ['"'] ∧ IsQuotedBody body

/-- A character that no reader of a program takes for a control or the end of a line. -/
def IsPlain (c : Char) : Prop :=
  0x20 ≤ c.toNat ∧ c.toNat ≠ 0x7f ∧ c.toNat ≠ 0xfeff ∧ c.toNat ≠ 0x2028 ∧ c.toNat ≠ 0x2029

instance (c : Char) : Decidable (IsPlain c) := by
  unfold IsPlain
  infer_instance

/-! ### One character of a literal -/

/-- The characters that stand in a literal as a backslash and one more character, each with
that character. -/
def shortEscapes : List (Char × Char) :=
  [('\\', '\\'), ('"', '"'), ('\n', 'n'), ('\r', 'r'), ('\t', 't')]

/-- How a character stands in a literal: behind a backslash, as the digits of its number, or as
itself.  Every law of literals goes through these four cases. -/
theorem literalChar_cases (c : Char) :
    (∃ e, (c, e) ∈ shortEscapes ∧ literalChar c = ['\\', e])
    ∨ ((c.toNat < 0x20 ∨ c.toNat = 0x7f) ∧ literalChar c = '\\' :: 'x' :: hexPadded 2 c.toNat)
    ∨ ((c.toNat = 0xfeff ∨ c.toNat = 0x2028 ∨ c.toNat = 0x2029) ∧
        literalChar c = '\\' :: 'u' :: hexPadded 4 c.toNat)
    ∨ ((IsPlain c ∧ c ≠ '"' ∧ c ≠ '\\' ∧ c ≠ '\n') ∧ literalChar c = [c]) := by
  unfold literalChar
  by_cases h₁ : c = '\\'
  · refine .inl ⟨'\\', ?_⟩
    rw [if_pos h₁, h₁]
    decide
  by_cases h₂ : c = '"'
  · refine .inl ⟨'"', ?_⟩
    rw [if_neg h₁, if_pos h₂, h₂]
    decide
  by_cases h₃ : c = '\n'
  · refine .inl ⟨'n', ?_⟩
    rw [if_neg h₁, if_neg h₂, if_pos h₃, h₃]
    decide
  by_cases h₄ : c = '\r'
  · refine .inl ⟨'r', ?_⟩
    rw [if_neg h₁, if_neg h₂, if_neg h₃, if_pos h₄, h₄]
    decide
  by_cases h₅ : c = '\t'
  · refine .inl ⟨'t', ?_⟩
    rw [if_neg h₁, if_neg h₂, if_neg h₃, if_neg h₄, if_pos h₅, h₅]
    decide
  rw [if_neg h₁, if_neg h₂, if_neg h₃, if_neg h₄, if_neg h₅]
  by_cases h₆ : c.toNat < 0x20 ∨ c.toNat = 0x7f
  · exact .inr (.inl ⟨h₆, if_pos h₆⟩)
  by_cases h₇ : c.toNat = 0xfeff ∨ c.toNat = 0x2028 ∨ c.toNat = 0x2029
  · refine .inr (.inr (.inl ⟨h₇, ?_⟩))
    rw [if_neg h₆, if_pos h₇]
  · refine .inr (.inr (.inr ⟨⟨?_, h₂, h₁, h₃⟩, ?_⟩))
    · unfold IsPlain
      omega
    · rw [if_neg h₆, if_neg h₇]

/-- The character behind a backslash is plain, begins no longer escape, and stands for the one
byte of the character that is escaped. -/
theorem escapedByte?_of_mem_shortEscapes : ∀ p ∈ shortEscapes,
    IsPlain p.2 ∧ p.2 ≠ 'x' ∧ p.2 ≠ 'u' ∧ p.2 ≠ 'U' ∧
      escapedByte? p.2 = some (UInt8.ofNat p.1.toNat) ∧
      String.utf8EncodeChar p.1 = [UInt8.ofNat p.1.toNat] := by
  decide

/-! ### Literals are read -/

theorem utf8EncodeChar_ascii {c : Char} (h : c.toNat < 128) :
    String.utf8EncodeChar c = [UInt8.ofNat c.toNat] := by
  rw [String.utf8EncodeChar]
  exact if_pos (show c.toNat ≤ 0x7f by omega)

/-- The number of a character names that character. -/
theorem scalarBytes?_toNat (c : Char) : scalarBytes? c.toNat = some (String.utf8EncodeChar c) := by
  rw [scalarBytes?, if_pos (show c.toNat.isValidChar from c.valid), Char.ofNat_toNat]

/-- A character of a literal denotes its own bytes, whatever follows it. -/
theorem interpretedBody?_literalChar (c : Char) (t : List Char) :
    interpretedBody? (literalChar c ++ t) =
      (interpretedBody? t).map (String.utf8EncodeChar c ++ ·) := by
  obtain ⟨e, hmem, hc⟩ | ⟨hn, hc⟩ | ⟨hn, hc⟩ | ⟨⟨-, hq, hb, hl⟩, hc⟩ := literalChar_cases c
  · obtain ⟨-, hx, hu, hU, he, hbytes⟩ := escapedByte?_of_mem_shortEscapes (c, e) hmem
    rw [hc, hbytes, List.cons_append, List.cons_append, List.nil_append, interpretedBody?.eq_def]
    simp only [if_neg (show ¬ '\\' = '"' by decide), if_neg (show ¬ '\\' = '\n' by decide),
      if_true]
    split
    · rename_i h
      exact absurd (List.cons.inj h).1 hx
    · rename_i h
      exact absurd (List.cons.inj h).1 hu
    · rename_i h
      exact absurd (List.cons.inj h).1 hU
    · rename_i h
      obtain ⟨rfl, rfl⟩ := List.cons.inj h
      simp only [he]
      rfl
    · rename_i h
      cases h
  · have hx := hexNumber?_two (n := c.toNat) (by omega)
    rw [hc, utf8EncodeChar_ascii (by omega)]
    simp only [hexPadded, List.nil_append, List.cons_append]
    rw [interpretedBody?, if_neg (by decide), if_neg (by decide), if_pos rfl]
    simp only [hx, Option.bind_some]
  · have hx : (hexNumber? (hexPadded 4 c.toNat)).bind scalarBytes? =
        some (String.utf8EncodeChar c) := by
      rw [hexNumber?_four hn, Option.bind_some, scalarBytes?_toNat]
    rw [hc]
    simp only [hexPadded, List.nil_append, List.cons_append] at hx ⊢
    rw [interpretedBody?, if_neg (by decide), if_neg (by decide), if_pos rfl]
    simp only [hx, Option.bind_some]
  · rw [hc, List.cons_append, List.nil_append, interpretedBody?.eq_def]
    simp only [if_neg hq, if_neg hl, if_neg hb]

theorem interpretedBody?_flatMap (s : List Char) :
    interpretedBody? (s.flatMap literalChar ++ ['"']) =
      some (s.flatMap String.utf8EncodeChar) := by
  induction s with
  | nil =>
    rw [List.flatMap_nil, List.nil_append, interpretedBody?.eq_def]
    rfl
  | cons c s ih =>
    rw [List.flatMap_cons, List.append_assoc, interpretedBody?_literalChar, ih, Option.map_some,
      List.flatMap_cons]

/-- A literal denotes the bytes of its text. -/
theorem interpreted?_literal (s : String) :
    interpreted? (literal s).toList = some (Text.encode s) := by
  rw [literal, String.toList_ofList]
  exact interpretedBody?_flatMap s.toList

/-! ### Quotes and plain characters -/

theorem hexDigit_plain : ∀ n < 16,
    IsPlain (hexDigit n) ∧ hexDigit n ≠ '"' ∧ hexDigit n ≠ '\\' := by
  decide

theorem isQuotedBody_hexPadded (width n : Nat) {t : List Char} (ht : IsQuotedBody t) :
    IsQuotedBody (hexPadded width n ++ t) := by
  induction width generalizing n t with
  | zero => exact ht
  | succ width ih =>
    obtain ⟨-, hq, hb⟩ := hexDigit_plain (n % 16) (by omega)
    rw [hexPadded, List.append_assoc]
    exact ih _ (.plain hq hb ht)

theorem isQuotedBody_literalChar (c : Char) {t : List Char} (ht : IsQuotedBody t) :
    IsQuotedBody (literalChar c ++ t) := by
  obtain ⟨e, -, hc⟩ | ⟨-, hc⟩ | ⟨-, hc⟩ | ⟨⟨-, hq, hb, -⟩, hc⟩ := literalChar_cases c
  · rw [hc]
    exact .escaped ht
  · rw [hc]
    exact .escaped (isQuotedBody_hexPadded 2 _ ht)
  · rw [hc]
    exact .escaped (isQuotedBody_hexPadded 4 _ ht)
  · rw [hc]
    exact .plain hq hb ht

/-- A literal ends at the first quote that is not escaped. -/
theorem isQuoted_literal (s : String) : IsQuoted (literal s).toList := by
  rw [literal, String.toList_ofList]
  refine ⟨s.toList.flatMap literalChar, rfl, ?_⟩
  induction s.toList with
  | nil => exact .nil
  | cons c s ih => exact isQuotedBody_literalChar c ih

theorem isPlain_of_mem_hexPadded {width n : Nat} {d : Char} (h : d ∈ hexPadded width n) :
    IsPlain d := by
  induction width generalizing n with
  | zero => cases h
  | succ width ih =>
    rcases List.mem_append.1 h with h | h
    · exact ih h
    · rw [List.mem_singleton.1 h]
      exact (hexDigit_plain (n % 16) (by omega)).1

theorem isPlain_of_mem_literalChar {c d : Char} (h : d ∈ literalChar c) : IsPlain d := by
  have hbackslash : IsPlain '\\' := by decide
  obtain ⟨e, hmem, hc⟩ | ⟨-, hc⟩ | ⟨-, hc⟩ | ⟨⟨hp, -⟩, hc⟩ := literalChar_cases c
  · rw [hc, List.mem_cons, List.mem_singleton] at h
    rcases h with rfl | rfl
    · exact hbackslash
    · exact (escapedByte?_of_mem_shortEscapes _ hmem).1
  · rw [hc, List.mem_cons, List.mem_cons] at h
    rcases h with rfl | rfl | h
    · exact hbackslash
    · decide
    · exact isPlain_of_mem_hexPadded h
  · rw [hc, List.mem_cons, List.mem_cons] at h
    rcases h with rfl | rfl | h
    · exact hbackslash
    · decide
    · exact isPlain_of_mem_hexPadded h
  · rw [hc, List.mem_singleton] at h
    rw [h]
    exact hp

/-- No character of a literal is a control or ends a line. -/
theorem isPlain_of_mem_literal {s : String} {d : Char} (h : d ∈ (literal s).toList) :
    IsPlain d := by
  rw [literal, String.toList_ofList, literalList, List.mem_append, List.mem_cons,
    List.mem_singleton, List.mem_flatMap] at h
  rcases h with (rfl | ⟨c, -, hc⟩) | rfl
  · decide
  · exact isPlain_of_mem_literalChar hc
  · decide

end MockServer.Program
