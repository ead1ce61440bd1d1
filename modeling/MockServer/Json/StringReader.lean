/-
Reading JSON strings.

`stringBody` reads the characters of a string up to its closing quote.  An escape
stands for one character; characters beyond the basic plane may be written as two
escapes, a leading and a trailing surrogate.  Main statement:
`stringBody_flatMap` — a written string is read back, whatever follows it.
-/
import MockServer.Json.Fault
import MockServer.Json.Printer

namespace MockServer.Json

open Text (hexNumber? hexPadded hexDigit)

/-- What was read and what is left to read, or a fault. -/
abbrev Reading (α : Type) := Except JsonFault (α × List Char)

/-- The character for which an escape of one letter stands. -/
def shortEscape? : Char → Option Char
  | '"' => some '"'
  | '\\' => some '\\'
  | '/' => some '/'
  | 'b' => some '\x08'
  | 'f' => some '\x0c'
  | 'n' => some '\n'
  | 'r' => some '\r'
  | 't' => some '\t'
  | _ => none

/-- A code unit that begins a pair. -/
def isLeading (n : Nat) : Bool :=
  0xd800 ≤ n && n ≤ 0xdbff

/-- A code unit that ends a pair. -/
def isTrailing (n : Nat) : Bool :=
  0xdc00 ≤ n && n ≤ 0xdfff

/-- The character of a pair. -/
def pairedChar (leading trailing : Nat) : Char :=
  Char.ofNat ((leading - 0xd800) * 0x400 + (trailing - 0xdc00) + 0x10000)

/-- The fault of an escape whose four digits cannot be read: too little text is left, or
something else stands there. -/
def digitsFault (s : List Char) : JsonFault :=
  if JsonFault.byteLength s < 4 then .reached .endOfString []
  else ⟨.badEscape, s, 4⟩

/-- The fault where a leading surrogate is not followed by an escape. -/
def pairFault : List Char → JsonFault
  | [] => .reached .endOfString []
  | '\\' :: [] => .reached .endOfString []
  | '\\' :: 'u' :: r => digitsFault r
  | '\\' :: r => .next .unfinishedEscape r
  | r => .next .unfinishedEscape r

/-- A character in front of what is read next. -/
def putFirst (c : Char) : Reading (List Char) → Reading (List Char)
  | .ok (cs, rest) => .ok (c :: cs, rest)
  | .error fault => .error fault

/-- The characters of a string up to the closing quote, and what follows it. -/
def stringBody : List Char → Reading (List Char)
  | [] => .error (.reached .endOfString [])
  | c :: r =>
    if c = '"' then .ok ([], r)
    else if c = '\\' then
      match r with
      | [] => .error (.reached .endOfString [])
      | 'u' :: h₁ :: h₂ :: h₃ :: h₄ :: r =>
        match hexNumber? [h₁, h₂, h₃, h₄] with
        | none => .error (digitsFault (h₁ :: h₂ :: h₃ :: h₄ :: r))
        | some n =>
          -- Two escapes together name a character past U+FFFF, and half of such a pair names none.
          if isTrailing n then .error (.reached .loneSurrogate r)
          else if isLeading n then
            match r with
            | '\\' :: 'u' :: l₁ :: l₂ :: l₃ :: l₄ :: r =>
              match hexNumber? [l₁, l₂, l₃, l₄] with
              | none => .error (digitsFault (l₁ :: l₂ :: l₃ :: l₄ :: r))
              | some m =>
                if isTrailing m then putFirst (pairedChar n m) (stringBody r)
                else .error (.reached .loneSurrogate r)
            | r => .error (pairFault r)
          else putFirst (Char.ofNat n) (stringBody r)
      | 'u' :: r => .error (digitsFault r)
      | e :: r =>
        match shortEscape? e with
        | some d => putFirst d (stringBody r)
        | none => .error (.next .badEscape (e :: r))
    else if c.toNat < 0x20 then .error (.reached .controlCharacter r)
    else putFirst c (stringBody r)

/-! ### Reading what was written -/

theorem hexNumber?_hexPadded_control : ∀ {n : Nat}, n < 32 →
    hexNumber? (hexPadded 4 n) = some n := by
  decide

/-- An escape of four digits is read as the character with that number. -/
theorem stringBody_hex {n : Nat} (h : n < 32) (t : List Char) :
    stringBody ('\\' :: 'u' :: hexPadded 4 n ++ t) = putFirst (Char.ofNat n) (stringBody t) := by
  have hx := hexNumber?_hexPadded_control h
  have h1 : isTrailing n = false := by simp [isTrailing]; omega
  have h2 : isLeading n = false := by simp [isLeading]; omega
  simp only [hexPadded, List.nil_append, List.cons_append] at hx ⊢
  rw [stringBody]
  simp [hx, h1, h2]

/-- A character that is not escaped is read as itself. -/
theorem stringBody_plain {c : Char} (hq : c ≠ '"') (hb : c ≠ '\\') (hc : ¬ c.toNat < 0x20)
    (t : List Char) : stringBody (c :: t) = putFirst c (stringBody t) := by
  rw [stringBody.eq_def]
  simp only [if_neg hq, if_neg hb, if_neg hc]

/-- A written character is read back, whatever follows it. -/
theorem stringBody_escapedChar (c : Char) (t : List Char) :
    stringBody (escapedChar c ++ t) = putFirst c (stringBody t) := by
  unfold escapedChar
  split
  · rfl
  · rfl
  · rfl
  · rfl
  · rfl
  · rfl
  · rfl
  · rename_i hq hb _ _ _ _ _
    split
    · rename_i hc
      rw [stringBody_hex hc, Char.ofNat_toNat]
    · rename_i hc
      exact stringBody_plain hq hb hc t

/-- A written string is read back, whatever follows it. -/
theorem stringBody_flatMap (s rest : List Char) :
    stringBody (s.flatMap escapedChar ++ '"' :: rest) = .ok (s, rest) := by
  induction s with
  | nil => rw [List.flatMap_nil, List.nil_append, stringBody.eq_def]; rfl
  | cons c s ih => rw [List.flatMap_cons, List.append_assoc, stringBody_escapedChar, ih, putFirst]

end MockServer.Json
