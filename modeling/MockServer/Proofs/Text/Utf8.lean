/-
Texts read back from their bytes.

Each character is written in one to four bytes, told apart by the first of them, and
`scalarAfter` has one lemma for each length.  Main statements:

* `scalars_utf8EncodeChar` — a written character is read back, whatever follows it;
* `utf8EncodeChar_of_scalarAfter` — only the bytes of a character are read as it;
* `decode?_encode` — every text is read back from its bytes;
* `decode?_eq_some_iff` — the bytes that are read as a text are those of that text.
-/
import MockServer.Text.Bytes

namespace MockServer.Text

/-! ### Bytes as numbers -/

section

variable {n m : Nat}

theorem toNat_byte (h : n < 256) : (UInt8.ofNat n).toNat = n :=
  UInt8.toNat_ofNat_of_lt h

theorem byte_lt (h : n < 256) {b : UInt8} : UInt8.ofNat n < b ↔ n < b.toNat := by
  rw [UInt8.lt_iff_toNat_lt, toNat_byte h]

theorem byte_le (h : n < 256) {b : UInt8} : UInt8.ofNat n ≤ b ↔ n ≤ b.toNat := by
  rw [UInt8.le_iff_toNat_le, toNat_byte h]

theorem le_byte (h : n < 256) {b : UInt8} : b ≤ UInt8.ofNat n ↔ b.toNat ≤ n := by
  rw [UInt8.le_iff_toNat_le, toNat_byte h]

theorem byte_eq (h : n < 256) {b : UInt8} : UInt8.ofNat n = b ↔ n = b.toNat := by
  rw [← UInt8.toNat_inj, toNat_byte h]

theorem low_byte (h : n < 256) : low (UInt8.ofNat n) = n % 64 := by
  rw [low, toNat_byte h]

theorem isContinuation_byte (h : 0x80 ≤ n ∧ n ≤ 0xbf) :
    isContinuation (UInt8.ofNat n) = true := by
  have hn : n < 256 := by omega
  simp [isContinuation, byte_le hn, le_byte hn, h]

/-- The second byte of a longer character may be any byte that does not make the form
overlong, a surrogate or too large. -/
theorem isSecond_byte (hn : n < 256) (hm : 0x80 ≤ m ∧ m ≤ 0xbf)
    (he0 : n = 0xe0 → 0xa0 ≤ m) (hed : n = 0xed → m ≤ 0x9f)
    (hf0 : n = 0xf0 → 0x90 ≤ m) (hf4 : n = 0xf4 → m ≤ 0x8f) :
    isSecond (UInt8.ofNat n) (UInt8.ofNat m) = true := by
  have hm' : m < 256 := by omega
  simp only [isSecond, beq_iff_eq, byte_eq hn, isContinuation_byte hm]
  split
  · rename_i h
    simp [byte_le hm', le_byte hm', he0 h, hm.2]
  split
  · rename_i h
    simp [byte_le hm', le_byte hm', hed h, hm.1]
  split
  · rename_i h
    simp [byte_le hm', le_byte hm', hf0 h, hm.2]
  split
  · rename_i h
    simp [byte_le hm', le_byte hm', hf4 h, hm.1]
  · rfl

end

/-! ### Characters of one to four bytes -/

section

variable {a b c d : Nat} (rest : List UInt8)

theorem scalarAfter_one (ha : a < 0x80) :
    scalarAfter (.ofNat a) rest = (some (Char.ofNat a), 0) := by
  have hlt : UInt8.ofNat a < 0x80 := (byte_lt (by omega)).2 ha
  rw [scalarAfter.eq_def, if_pos hlt, toNat_byte (by omega)]

theorem scalarAfter_two (ha : 0xc2 ≤ a ∧ a ≤ 0xdf) (hb : 0x80 ≤ b ∧ b ≤ 0xbf) :
    scalarAfter (.ofNat a) (.ofNat b :: rest) =
      (some (Char.ofNat (a % 32 * 64 + b % 64)), 1) := by
  have ha' : a < 256 := by omega
  have h1 : ¬ UInt8.ofNat a < 0x80 := by
    rw [byte_lt ha']
    show ¬ a < 0x80
    omega
  have h2 : (0xc2 ≤ UInt8.ofNat a && UInt8.ofNat a ≤ 0xdf) = true := by
    simp [byte_le ha', le_byte ha', ha]
  simp only [scalarAfter, if_neg h1, if_pos h2, isContinuation_byte hb, if_true,
    toNat_byte ha', low_byte (show b < 256 by omega)]

theorem scalarAfter_three (ha : 0xe0 ≤ a ∧ a ≤ 0xef) (hb : 0x80 ≤ b ∧ b ≤ 0xbf)
    (hc : 0x80 ≤ c ∧ c ≤ 0xbf) (he0 : a = 0xe0 → 0xa0 ≤ b) (hed : a = 0xed → b ≤ 0x9f) :
    scalarAfter (.ofNat a) (.ofNat b :: .ofNat c :: rest) =
      (some (Char.ofNat (a % 16 * 4096 + b % 64 * 64 + c % 64)), 2) := by
  have ha' : a < 256 := by omega
  have h1 : ¬ UInt8.ofNat a < 0x80 := by
    rw [byte_lt ha']
    show ¬ a < 0x80
    omega
  have h2 : ¬ (0xc2 ≤ UInt8.ofNat a && UInt8.ofNat a ≤ 0xdf) = true := by
    simp [byte_le ha', le_byte ha']
    omega
  have h3 : (0xe0 ≤ UInt8.ofNat a && UInt8.ofNat a ≤ 0xef) = true := by
    simp [byte_le ha', le_byte ha', ha]
  have hs := isSecond_byte ha' hb he0 hed (by omega) (by omega)
  simp only [scalarAfter, if_neg h1, if_neg h2, if_pos h3, hs, isContinuation_byte hc, if_true,
    toNat_byte ha', low_byte (show b < 256 by omega), low_byte (show c < 256 by omega)]

theorem scalarAfter_four (ha : 0xf0 ≤ a ∧ a ≤ 0xf4) (hb : 0x80 ≤ b ∧ b ≤ 0xbf)
    (hc : 0x80 ≤ c ∧ c ≤ 0xbf) (hd : 0x80 ≤ d ∧ d ≤ 0xbf)
    (hf0 : a = 0xf0 → 0x90 ≤ b) (hf4 : a = 0xf4 → b ≤ 0x8f) :
    scalarAfter (.ofNat a) (.ofNat b :: .ofNat c :: .ofNat d :: rest) =
      (some (Char.ofNat (a % 8 * 262144 + b % 64 * 4096 + c % 64 * 64 + d % 64)), 3) := by
  have ha' : a < 256 := by omega
  have h1 : ¬ UInt8.ofNat a < 0x80 := by
    rw [byte_lt ha']
    show ¬ a < 0x80
    omega
  have h2 : ¬ (0xc2 ≤ UInt8.ofNat a && UInt8.ofNat a ≤ 0xdf) = true := by
    simp [byte_le ha', le_byte ha']
    omega
  have h3 : ¬ (0xe0 ≤ UInt8.ofNat a && UInt8.ofNat a ≤ 0xef) = true := by
    simp [byte_le ha', le_byte ha']
    omega
  have h4 : (0xf0 ≤ UInt8.ofNat a && UInt8.ofNat a ≤ 0xf4) = true := by
    simp [byte_le ha', le_byte ha', ha]
  have hs := isSecond_byte ha' hb (by omega) (by omega) hf0 hf4
  simp only [scalarAfter, if_neg h1, if_neg h2, if_neg h3, if_pos h4, hs, isContinuation_byte hc,
    isContinuation_byte hd, if_true, toNat_byte ha', low_byte (show b < 256 by omega),
    low_byte (show c < 256 by omega), low_byte (show d < 256 by omega)]

end

/-! ### Texts -/

theorem toNat_valid (c : Char) : c.toNat < 0xd800 ∨ 0xdfff < c.toNat ∧ c.toNat < 0x110000 :=
  c.valid

theorem ofNat_eq_of_toNat {c : Char} {n : Nat} (h : n = c.toNat) : Char.ofNat n = c := by
  rw [h, Char.ofNat_toNat]

/-- A written character is read back, whatever follows it. -/
theorem scalars_utf8EncodeChar (c : Char) (rest : List UInt8) :
    scalars (String.utf8EncodeChar c ++ rest) = some c :: scalars rest := by
  have hv := toNat_valid c
  have hvn : c.val.toNat = c.toNat := rfl
  rw [String.utf8EncodeChar]
  simp only [hvn]
  by_cases h1 : c.toNat ≤ 0x7f
  · rw [if_pos h1, List.cons_append, scalars, scalarAfter_one _ (by omega), Char.ofNat_toNat]
    rfl
  by_cases h2 : c.toNat ≤ 0x7ff
  · rw [if_neg h1, if_pos h2, List.cons_append, scalars, List.cons_append,
      scalarAfter_two _ (by omega) (by omega), ofNat_eq_of_toNat (c := c) (by omega)]
    rfl
  by_cases h3 : c.toNat ≤ 0xffff
  · rw [if_neg h1, if_neg h2, if_pos h3, List.cons_append, scalars, List.cons_append,
      List.cons_append, scalarAfter_three _ (by omega) (by omega) (by omega) (by omega)
        (by omega), ofNat_eq_of_toNat (c := c) (by omega)]
    rfl
  · rw [if_neg h1, if_neg h2, if_neg h3, List.cons_append, scalars, List.cons_append,
      List.cons_append, List.cons_append, scalarAfter_four _ (by omega) (by omega) (by omega)
        (by omega) (by omega) (by omega), ofNat_eq_of_toNat (c := c) (by omega)]
    rfl

theorem scalars_flatMap (s : List Char) :
    scalars (s.flatMap String.utf8EncodeChar) = s.map some := by
  induction s with
  | nil => rw [List.flatMap_nil, scalars, List.map_nil]
  | cons c s ih => rw [List.flatMap_cons, scalars_utf8EncodeChar, ih, List.map_cons]

/-- The parts that are read give a text where each of them is a character. -/
theorem mapM_id_eq_some_iff {l : List (Option Char)} {s : List Char} :
    l.mapM id = some s ↔ l = s.map some := by
  induction l generalizing s with
  | nil => cases s <;> simp
  | cons c l ih =>
    cases s with
    | nil => cases c <;> simp [Option.bind_eq_some_iff]
    | cons d s => cases c <;> simp [Option.bind_eq_some_iff, ih, and_left_comm]

/-- Every text is read back from its bytes. -/
theorem decode?_encode (s : String) : decode? (encode s) = some s := by
  rw [decode?, encode, scalars_flatMap, mapM_id_eq_some_iff.2 rfl, Option.map_some,
    String.ofList_toList]

/-- The bytes of a text are no damaged ones. -/
theorem decodeLossy_encode (s : String) : decodeLossy (encode s) = s := by
  rw [decodeLossy, encode, scalars_flatMap, List.map_map]
  exact (congrArg String.ofList (List.map_id s.toList)).trans String.ofList_toList

/-! ### Only what was written is read -/

theorem range_of_isContinuation {b : UInt8} (h : isContinuation b = true) :
    0x80 ≤ b.toNat ∧ b.toNat ≤ 0xbf := by
  simpa [isContinuation, UInt8.le_iff_toNat_le] using h

/-- The range of a second byte, by the first one. -/
theorem range_of_isSecond {first second : UInt8} (h : isSecond first second = true) :
    (0x80 ≤ second.toNat ∧ second.toNat ≤ 0xbf) ∧
      (first.toNat = 0xe0 → 0xa0 ≤ second.toNat) ∧ (first.toNat = 0xed → second.toNat ≤ 0x9f) ∧
      (first.toNat = 0xf0 → 0x90 ≤ second.toNat) ∧ (first.toNat = 0xf4 → second.toNat ≤ 0x8f) := by
  simp only [isSecond, isContinuation, beq_iff_eq, ← UInt8.toNat_inj] at h
  repeat' split at h
  all_goals
    simp [UInt8.le_iff_toNat_le] at *
    omega

theorem toNat_ofNat {n : Nat} (h : n.isValidChar) : (Char.ofNat n).toNat = n := by
  rw [Char.ofNat, dif_pos h]
  rfl

section

variable {a b c d : UInt8}

theorem utf8EncodeChar_one (ha : a.toNat < 0x80) :
    String.utf8EncodeChar (Char.ofNat a.toNat) = [a] := by
  have hn : (Char.ofNat a.toNat).val.toNat = a.toNat :=
    toNat_ofNat (by rw [Nat.isValidChar]; omega)
  simp only [String.utf8EncodeChar, hn]
  rw [if_pos (by omega), UInt8.ofNat_toNat]

theorem utf8EncodeChar_two (ha : 0xc2 ≤ a.toNat ∧ a.toNat ≤ 0xdf)
    (hb : 0x80 ≤ b.toNat ∧ b.toNat ≤ 0xbf) :
    String.utf8EncodeChar (Char.ofNat (a.toNat % 32 * 64 + low b)) = [a, b] := by
  simp only [low]
  generalize hv : a.toNat % 32 * 64 + b.toNat % 64 = n
  have hn : (Char.ofNat n).val.toNat = n := toNat_ofNat (by rw [Nat.isValidChar]; omega)
  simp only [String.utf8EncodeChar, hn]
  rw [if_neg (by omega), if_pos (by omega), show n / 64 % 32 + 192 = a.toNat by omega,
    show n % 64 + 128 = b.toNat by omega, UInt8.ofNat_toNat, UInt8.ofNat_toNat]

theorem utf8EncodeChar_three (ha : 0xe0 ≤ a.toNat ∧ a.toNat ≤ 0xef)
    (hb : isSecond a b = true) (hc : isContinuation c = true) :
    String.utf8EncodeChar (Char.ofNat (a.toNat % 16 * 4096 + low b * 64 + low c)) = [a, b, c] := by
  obtain ⟨hb, he0, hed, -, -⟩ := range_of_isSecond hb
  have hc := range_of_isContinuation hc
  simp only [low]
  generalize hv : a.toNat % 16 * 4096 + b.toNat % 64 * 64 + c.toNat % 64 = n
  have hn : (Char.ofNat n).val.toNat = n := toNat_ofNat (by rw [Nat.isValidChar]; omega)
  simp only [String.utf8EncodeChar, hn]
  rw [if_neg (by omega), if_neg (by omega), if_pos (by omega),
    show n / 4096 % 16 + 224 = a.toNat by omega, show n / 64 % 64 + 128 = b.toNat by omega,
    show n % 64 + 128 = c.toNat by omega, UInt8.ofNat_toNat, UInt8.ofNat_toNat,
    UInt8.ofNat_toNat]

theorem utf8EncodeChar_four (ha : 0xf0 ≤ a.toNat ∧ a.toNat ≤ 0xf4)
    (hb : isSecond a b = true) (hc : isContinuation c = true) (hd : isContinuation d = true) :
    String.utf8EncodeChar
        (Char.ofNat (a.toNat % 8 * 262144 + low b * 4096 + low c * 64 + low d)) =
      [a, b, c, d] := by
  obtain ⟨hb, -, -, hf0, hf4⟩ := range_of_isSecond hb
  have hc := range_of_isContinuation hc
  have hd := range_of_isContinuation hd
  simp only [low]
  generalize hv : a.toNat % 8 * 262144 + b.toNat % 64 * 4096 + c.toNat % 64 * 64 + d.toNat % 64 = n
  have hn : (Char.ofNat n).val.toNat = n := toNat_ofNat (by rw [Nat.isValidChar]; omega)
  simp only [String.utf8EncodeChar, hn]
  rw [if_neg (by omega), if_neg (by omega), if_neg (by omega),
    show n / 262144 % 8 + 240 = a.toNat by omega, show n / 4096 % 64 + 128 = b.toNat by omega,
    show n / 64 % 64 + 128 = c.toNat by omega, show n % 64 + 128 = d.toNat by omega,
    UInt8.ofNat_toNat, UInt8.ofNat_toNat, UInt8.ofNat_toNat, UInt8.ofNat_toNat]

end

/-- Only the bytes of a character are read as it. -/
theorem utf8EncodeChar_of_scalarAfter {first : UInt8} {rest : List UInt8} {c : Char} {taken : Nat}
    (h : scalarAfter first rest = (some c, taken)) :
    String.utf8EncodeChar c = first :: rest.take taken := by
  have hrange : ∀ {low high : UInt8}, (low ≤ first && first ≤ high) = true →
      low.toNat ≤ first.toNat ∧ first.toNat ≤ high.toNat := by
    intro low high h
    simpa [UInt8.le_iff_toNat_le] using h
  rw [scalarAfter.eq_def] at h
  -- What is left of the branches are the four in which a character is read.
  repeat' split at h
  all_goals cases h
  · rename_i hone
    exact utf8EncodeChar_one (UInt8.lt_iff_toNat_lt.1 hone)
  · rename_i htwo _ _ _ hb
    exact utf8EncodeChar_two (hrange htwo) (range_of_isContinuation hb)
  · rename_i hthree _ _ _ _ hb hc
    exact utf8EncodeChar_three (hrange hthree) hb hc
  · rename_i hfour _ _ _ _ _ hb hc hd
    exact utf8EncodeChar_four (hrange hfour) hb hc hd

/-- Only the bytes of some characters are read as them. -/
theorem flatMap_of_scalars {bytes : List UInt8} {s : List Char} (h : scalars bytes = s.map some) :
    s.flatMap String.utf8EncodeChar = bytes := by
  induction bytes using scalars.induct generalizing s with
  | case1 =>
    rw [scalars, eq_comm, List.map_eq_nil_iff] at h
    rw [h, List.flatMap_nil]
  | case2 first rest c taken hstep ih =>
    rw [scalars, hstep] at h
    cases s with
    | nil => cases h
    | cons d s =>
      obtain ⟨rfl, hrest⟩ := List.cons.inj h
      rw [List.flatMap_cons, ih hrest, utf8EncodeChar_of_scalarAfter hstep, List.cons_append,
        List.take_append_drop]

/-- The bytes that are read as a text are those of that text. -/
theorem decode?_eq_some_iff {bytes : List UInt8} {s : String} :
    decode? bytes = some s ↔ encode s = bytes := by
  constructor
  · intro h
    obtain ⟨l, hl, rfl⟩ := Option.map_eq_some_iff.1 h
    rw [encode, String.toList_ofList]
    exact flatMap_of_scalars (mapM_id_eq_some_iff.1 hl)
  · rintro rfl
    exact decode?_encode s

end MockServer.Text
