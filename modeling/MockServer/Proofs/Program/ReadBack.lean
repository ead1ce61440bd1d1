/-
Literals in front of other text.

`Reads` follows the rules by which a literal is read, one rule for each form that may stand in
it, and says what is left behind the quote that ends the literal.  It knows only the escapes
that a literal is written with: an unknown or a cut-off escape has no rule.  Main statements:

* `Reads.unique` — a text is read in one way at most;
* `reads_literal` — a literal is read to the bytes of its text, whatever follows it;
* `literal_reads_back` — so a literal is one literal, and denotes its text.
-/
import MockServer.Proofs.Program.Interpreted
import MockServer.Proofs.Text.Utf8

namespace MockServer.Program

open Text (hexPadded hexNumber?)

/-! ### The rules -/

/-- What may stand behind a backslash, and the bytes for which it stands. -/
inductive Escapes : List Char → List UInt8 → Prop where
  | backslash : Escapes ['\\'] [92]
  | quote : Escapes ['"'] [34]
  | lineEnd : Escapes ['n'] [10]
  | carriageReturn : Escapes ['r'] [13]
  | tab : Escapes ['t'] [9]
  | byte {h₁ h₂ : Char} {n : Nat} (value : hexNumber? [h₁, h₂] = some n) :
      Escapes ['x', h₁, h₂] [UInt8.ofNat n]
  | character {h₁ h₂ h₃ h₄ : Char} {n : Nat} {bytes : List UInt8}
      (value : hexNumber? [h₁, h₂, h₃, h₄] = some n) (scalar : scalarBytes? n = some bytes) :
      Escapes ['u', h₁, h₂, h₃, h₄] bytes

/-- A text is read, from behind the quote that opens a literal, to some bytes; `rest` is left
behind the quote that ends the literal. -/
inductive Reads : List Char → List UInt8 → List Char → Prop where
  | close (rest : List Char) : Reads ('"' :: rest) [] rest
  | plain {c : Char} {r rest : List Char} {bytes : List UInt8} (quote : c ≠ '"')
      (backslash : c ≠ '\\') (lineEnd : c ≠ '\n') (more : Reads r bytes rest) :
      Reads (c :: r) (String.utf8EncodeChar c ++ bytes) rest
  | escaped {e r rest : List Char} {value bytes : List UInt8} (escape : Escapes e value)
      (more : Reads r bytes rest) : Reads ('\\' :: (e ++ r)) (value ++ bytes) rest

/-! ### One way to read -/

/-- No escape begins like another one. -/
theorem Escapes.unique {e e' r r' : List Char} {value value' : List UInt8} (h : Escapes e value)
    (h' : Escapes e' value') (heq : e ++ r = e' ++ r') : value = value' ∧ r = r' := by
  cases h <;> cases h' <;> simp_all

/-- A text is read in one way at most. -/
theorem Reads.unique {s rest rest' : List Char} {bytes bytes' : List UInt8}
    (h : Reads s bytes rest) (h' : Reads s bytes' rest') : bytes = bytes' ∧ rest = rest' := by
  induction h generalizing bytes' with
  | close rest =>
    cases h' with
    | close => exact ⟨rfl, rfl⟩
    | plain quote => exact absurd rfl quote
  | plain quote backslash lineEnd more ih =>
    cases h' with
    | close => exact absurd rfl quote
    | plain _ _ _ more' =>
      obtain ⟨rfl, hrest⟩ := ih more'
      exact ⟨rfl, hrest⟩
    | escaped => exact absurd rfl backslash
  | @escaped e r rest value bytes escape more ih =>
    generalize hs : '\\' :: (e ++ r) = s at h'
    cases h' with
    | close => cases hs
    | plain _ backslash => exact absurd (List.cons.inj hs).1.symm backslash
    | escaped escape' more' =>
      obtain ⟨rfl, rfl⟩ := escape.unique escape' (List.cons.inj hs).2
      obtain ⟨rfl, hrest⟩ := ih more'
      exact ⟨rfl, hrest⟩

/-! ### Literals are read -/

/-- A character of a literal stands behind a backslash, or as itself where it is neither a quote
nor a backslash nor a line end. -/
theorem escapes_literalChar (c : Char) :
    (∃ e, literalChar c = '\\' :: e ∧ Escapes e (String.utf8EncodeChar c)) ∨
      ((c ≠ '"' ∧ c ≠ '\\' ∧ c ≠ '\n') ∧ literalChar c = [c]) := by
  obtain ⟨e, hmem, hc⟩ | ⟨hn, hc⟩ | ⟨hn, hc⟩ | ⟨⟨-, hplain⟩, hc⟩ := literalChar_cases c
  · refine .inl ⟨[e], hc, ?_⟩
    simp only [shortEscapes, List.mem_cons, List.not_mem_nil, Prod.mk.injEq, or_false] at hmem
    rcases hmem with ⟨rfl, rfl⟩ | ⟨rfl, rfl⟩ | ⟨rfl, rfl⟩ | ⟨rfl, rfl⟩ | ⟨rfl, rfl⟩
    · exact .backslash
    · exact .quote
    · exact .lineEnd
    · exact .carriageReturn
    · exact .tab
  · -- A control character is one byte, so the number of the byte is its own.
    rw [utf8EncodeChar_ascii (by omega)]
    exact .inl ⟨_, hc, .byte (hexNumber?_two (by omega))⟩
  · exact .inl ⟨_, hc, .character (hexNumber?_four hn) (scalarBytes?_toNat c)⟩
  · exact .inr ⟨hplain, hc⟩

/-- A character of a literal is read to its own bytes, whatever follows it. -/
theorem reads_literalChar (c : Char) {s rest : List Char} {bytes : List UInt8}
    (h : Reads s bytes rest) :
    Reads (literalChar c ++ s) (String.utf8EncodeChar c ++ bytes) rest := by
  obtain ⟨e, hc, hescape⟩ | ⟨⟨hquote, hbackslash, hlineEnd⟩, hc⟩ := escapes_literalChar c
  · rw [hc, List.cons_append]
    exact .escaped hescape h
  · rw [hc, List.cons_append, List.nil_append]
    exact .plain hquote hbackslash hlineEnd h

/-- A literal is read to the bytes of its text, whatever follows it. -/
theorem reads_literal (s : String) (rest : List Char) :
    Reads (s.toList.flatMap literalChar ++ '"' :: rest) (Text.encode s) rest := by
  rw [Text.encode]
  induction s.toList with
  | nil => exact .close rest
  | cons c s ih =>
    rw [List.flatMap_cons, List.append_assoc, List.flatMap_cons]
    exact reads_literalChar c ih

/-- A literal and what follows it are told apart in one way. -/
theorem literal_append_injective {s s' : String} {rest rest' : List Char}
    (h : (literal s).toList ++ rest = (literal s').toList ++ rest') : s = s' ∧ rest = rest' := by
  have hbody : s.toList.flatMap literalChar ++ '"' :: rest =
      s'.toList.flatMap literalChar ++ '"' :: rest' := by
    simpa [literal, literalList] using h
  have hread := reads_literal s rest
  rw [hbody] at hread
  obtain ⟨hbytes, hrest⟩ := hread.unique (reads_literal s' rest')
  have hdecode := congrArg Text.decode? hbytes
  rw [Text.decode?_encode, Text.decode?_encode] at hdecode
  exact ⟨Option.some.inj hdecode, hrest⟩

/-- **A literal is read back.**  It begins and ends with a quote; whatever follows it, it is
read in one way only, to the bytes of its text and up to its last quote, and what follows is
left; the language, with all its escapes, reads the same bytes; and no character of it is a
control or ends a line. -/
theorem literal_reads_back (s : String) :
    (∃ body, (literal s).toList = '"' :: body ++ ['"'] ∧
      ∀ rest bytes left, Reads (body ++ '"' :: rest) bytes left ↔
        bytes = Text.encode s ∧ left = rest)
    ∧ IsQuoted (literal s).toList
    ∧ interpreted? (literal s).toList = some (Text.encode s)
    ∧ ∀ c ∈ (literal s).toList, IsPlain c := by
  refine ⟨⟨s.toList.flatMap literalChar, ?_, ?_⟩, isQuoted_literal s, interpreted?_literal s,
    fun c hc => isPlain_of_mem_literal hc⟩
  · rw [literal, String.toList_ofList, literalList]
  · intro rest bytes left
    constructor
    · intro h
      exact h.unique (reads_literal s rest)
    · rintro ⟨rfl, rfl⟩
      exact reads_literal s left

end MockServer.Program
