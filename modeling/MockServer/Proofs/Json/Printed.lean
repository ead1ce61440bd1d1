/-
What is printed of a JSON value.

The text of a value is one line, since control characters are escaped in strings and stand
nowhere else.  It is read back as the value that it was, where the value keeps within what a
reader keeps: integers for numbers, one member for each key, and containers that do not nest
too deep.  Main statements:

* `lineEnd_not_mem_text` — a text is one line;
* `readNumber_digits` — a plain numeral is read as its number, whatever follows it;
* `isReadBack` — a written value is read back, whatever follows it;
* `read_text` — a text is read back;
* `isObjectLine_text` — the text of an object is one line, with its members and no others.

Design notes: a value costs the reader at most three steps, so three for each character of its
text are enough; the induction bounds the fuel of an item or a member by the whole list it
stands in.
-/
import MockServer.Proofs.Json.Raw

namespace MockServer.Json

open Number

/-! ### One line -/

/-- A text without control characters, and so without line ends. -/
def IsLine (s : List Char) : Prop :=
  ∀ c ∈ s, 0x20 ≤ c.toNat

instance (s : List Char) : Decidable (IsLine s) :=
  List.decidableBAll (fun c : Char => 0x20 ≤ c.toNat) s

theorem isLine_append {s t : List Char} (hs : IsLine s) (ht : IsLine t) : IsLine (s ++ t) :=
  List.forall_mem_append.2 ⟨hs, ht⟩

theorem isLine_cons {c : Char} {s : List Char} (hc : 0x20 ≤ c.toNat) (hs : IsLine s) :
    IsLine (c :: s) :=
  List.forall_mem_cons.2 ⟨hc, hs⟩

theorem isLine_hexPadded : ∀ {n : Nat}, n < 0x20 → IsLine (Text.hexPadded 4 n) := by decide

theorem isLine_escapedChar (c : Char) : IsLine (escapedChar c) := by
  unfold escapedChar
  split
  case h_8 =>
    split
    · rename_i hc
      exact isLine_cons (by decide) (isLine_cons (by decide) (isLine_hexPadded hc))
    · rename_i hc
      exact isLine_cons (Nat.le_of_not_lt hc) (List.forall_mem_nil _)
  all_goals decide

theorem isLine_stringText (s : String) : IsLine (stringText s) := by
  refine isLine_append (isLine_cons (by decide) fun c hc => ?_) (isLine_cons (by decide)
    (List.forall_mem_nil _))
  obtain ⟨d, -, hd⟩ := List.mem_flatMap.1 hc
  exact isLine_escapedChar d c hd

theorem isLine_digits {s : List Char} (h : IsDigits s) : IsLine s := by
  intro c hc
  have hdigit := h.all c hc
  simp only [Char.isDigit, Bool.and_eq_true, decide_eq_true_eq] at hdigit
  have hlow : 48 ≤ c.toNat := hdigit.1
  omega

theorem isLine_magnitude {s : List Char} (h : IsMagnitude s) : IsLine s := by
  obtain ⟨hwhole, hfraction, hexponent⟩ := h
  refine isLine_append (isLine_append (isLine_digits hwhole.digits) ?_) ?_
  · cases hfraction with
    | none => exact List.forall_mem_nil _
    | digits h => exact isLine_cons (by decide) (isLine_digits h)
  · cases hexponent with
    | none => exact List.forall_mem_nil _
    | digits signed h =>
      refine isLine_cons (by decide) (isLine_cons ?_ (isLine_digits h))
      rcases signed with rfl | rfl <;> decide

theorem isLine_numeral {s : List Char} (h : IsNumeral s) : IsLine s := by
  cases h with
  | unsigned h => exact isLine_magnitude h
  | negative h => exact isLine_cons (by decide) (isLine_magnitude h)

theorem isLine_separated {parts : List (List Char)} (h : ∀ part ∈ parts, IsLine part) :
    IsLine (separated [','] parts) := by
  induction parts with
  | nil => exact List.forall_mem_nil _
  | cons part rest ih =>
    obtain ⟨hpart, hrest⟩ := List.forall_mem_cons.1 h
    cases rest with
    | nil => exact hpart
    | cons next rest =>
      exact isLine_append (isLine_append hpart (isLine_cons (by decide) (List.forall_mem_nil _)))
        (ih hrest)

/-- Parts without control characters make a container without them. -/
theorem isLine_bracketed {opening closing : Char} {parts : List (List Char)}
    (ho : 0x20 ≤ opening.toNat) (hc : 0x20 ≤ closing.toNat) (h : ∀ part ∈ parts, IsLine part) :
    IsLine (opening :: separated [','] parts ++ [closing]) :=
  isLine_append (isLine_cons ho (isLine_separated h)) (isLine_cons hc (List.forall_mem_nil _))

mutual

theorem isLine_compact : ∀ v : Json, IsLine v.compact
  | .null => by decide
  | .bool true => by decide
  | .bool false => by decide
  | .number n => isLine_numeral (isNumeral_text n)
  | .string s => isLine_stringText s
  | .array items => by
    rw [compact]
    exact isLine_bracketed (by decide) (by decide) (isLine_compactItems items)
  | .object ms => by
    rw [compact]
    exact isLine_bracketed (by decide) (by decide) (isLine_compactMembers ms)

theorem isLine_compactItems : ∀ items : List Json, ∀ part ∈ compactItems items, IsLine part
  | [] => List.forall_mem_nil _
  | v :: rest => List.forall_mem_cons.2 ⟨isLine_compact v, isLine_compactItems rest⟩

theorem isLine_compactMembers :
    ∀ ms : List (String × Json), ∀ part ∈ compactMembers ms, IsLine part
  | [] => List.forall_mem_nil _
  | (key, v) :: rest => List.forall_mem_cons.2
    ⟨isLine_append (isLine_stringText key) (isLine_cons (by decide) (isLine_compact v)),
      isLine_compactMembers rest⟩

end

/-- The text of a value is one line. -/
theorem lineEnd_not_mem_text (v : Json) : '\n' ∉ v.text.toList := by
  rw [text, String.toList_ofList]
  exact fun h => absurd (isLine_compact v '\n' h) (by decide)

/-! ### Integers are read back -/

theorem le_foldl_digits (s : List Char) (v : Nat) :
    v ≤ s.foldl (fun n c => n * 10 + digitValue c) v := by
  induction s generalizing v with
  | nil => exact Nat.le_refl v
  | cons c s ih =>
    have := ih (v * 10 + digitValue c)
    rw [List.foldl_cons]
    omega

/-- Digits are collected as long as the number fits, and no more than they are. -/
theorem collect_append {bound : Nat} {s rest : List Char} (h : ∀ c ∈ s, c.isDigit = true)
    (hr : startsWithDigit rest = false) (v : Nat)
    (hv : s.foldl (fun n c => n * 10 + digitValue c) v < bound) :
    collect bound v (s ++ rest) =
      ⟨s.foldl (fun n c => n * 10 + digitValue c) v, s.length, rest⟩ := by
  induction s generalizing v with
  | nil =>
    cases rest with
    | nil => rfl
    | cons c r =>
      have hc : c.isDigit = false := hr
      rw [List.nil_append, collect, hc, Bool.false_and, if_neg Bool.false_ne_true]
      rfl
  | cons c s ih =>
    obtain ⟨hc, hs⟩ := List.forall_mem_cons.1 h
    rw [List.foldl_cons] at hv
    have hfits := Nat.lt_of_le_of_lt (le_foldl_digits s (v * 10 + digitValue c)) hv
    rw [List.cons_append, collect, hc, decide_eq_true hfits, Bool.and_self, if_pos rfl,
      ih hs _ hv]
    rfl

/-- A plain numeral is read as its number, whatever follows it. -/
theorem readNumber_digits {n : Nat} (hn : n < 0x10000000000000000) (negative : Bool)
    {rest : List Char} (hr : EndsNumeral rest) :
    readNumber negative (digits n ++ rest) = wholeNumber negative n rest := by
  have hwhole := isWhole_digits n
  have hnumber := number_digits n
  cases hdigits : digits n with
  | nil => exact absurd hdigits hwhole.digits.nonempty
  | cons c r =>
    rw [hdigits] at hwhole hnumber
    have hcollected : (if c = '0' then (⟨0, 1, r ++ rest⟩ : Collected)
        else collect 0x10000000000000000 0 (c :: (r ++ rest))) = ⟨n, r.length + 1, rest⟩ := by
      by_cases hc : c = '0'
      · -- A zero in front stands alone.
        have hzero : c :: r = ['0'] := hwhole.leading (by rw [hc]; rfl)
        obtain ⟨rfl, rfl⟩ := List.cons.inj hzero
        rw [if_pos rfl, ← hnumber]
        rfl
      · have hcollect := collect_append hwhole.digits.all hr.digit 0 (hnumber.trans_lt hn)
        rw [if_neg hc]
        refine hcollect.trans ?_
        rw [show (c :: r).foldl (fun n c => n * 10 + digitValue c) 0 = n from hnumber]
        rfl
    have hdigit : c.isDigit = true := hwhole.digits.all c List.mem_cons_self
    have hend : ¬ (startsExponent rest = true ∨ rest.head? = some '.') := by
      simp [hr.exponent, hr.point]
    rw [List.cons_append, readNumber, hdigit]
    simp only [hcollected, hr.digit, Bool.not_true, Bool.false_eq_true, if_false]
    rw [if_neg hend]

theorem natAbs_lt_of_fitsWord {z : Int} (h : FitsWord z) : z.natAbs < 0x10000000000000000 := by
  obtain ⟨hlow, hhigh⟩ := h
  omega

theorem wholeNumber_natAbs {z : Int} (fits : FitsWord z) (rest : List Char) :
    wholeNumber (decide (z < 0)) z.natAbs rest = .ok (.integer z fits, rest) := by
  have hsigned : (if decide (z < 0) = true then -(z.natAbs : Int) else z.natAbs) = z := by
    by_cases hz : z < 0
    · rw [decide_eq_true hz, if_pos rfl]
      omega
    · rw [decide_eq_false hz, if_neg Bool.false_ne_true]
      omega
  have hzero : decide (z < 0) = true → z.natAbs ≠ 0 := by
    intro h
    have := of_decide_eq_true h
    omega
  rw [wholeNumber]
  simp only [hsigned]
  rw [dif_pos ⟨fits, hzero⟩]

/-- An integer is read back, whatever follows it. -/
theorem readValue_integer {z : Int} (fits : FitsWord z) (fuel depth : Nat) {rest : List Char}
    (hr : EndsNumeral rest) :
    readValue (fuel + 1) depth (integer z ++ rest) = .ok (.number (.integer z fits), rest) := by
  have hread := readNumber_digits (natAbs_lt_of_fitsWord fits) (decide (z < 0)) hr
  rw [wholeNumber_natAbs fits] at hread
  rw [integer]
  split
  · rename_i hz
    rw [decide_eq_true hz] at hread
    rw [List.cons_append, readValue, skipGap_cons rfl]
    simp only [hread]
    rfl
  · rename_i hz
    rw [decide_eq_false hz] at hread
    cases hdigits : digits z.natAbs with
    | nil => exact absurd hdigits (isDigits_digits z.natAbs).nonempty
    | cons c r =>
      have hc : c.isDigit = true := (isDigits_digits z.natAbs).all c (by simp [hdigits])
      rw [hdigits, List.cons_append] at hread
      rw [List.cons_append, readValue, skipGap_cons (isGap_of_isDigit hc)]
      split
      case h_1 heq => cases heq
      case h_9 heq =>
        cases heq
        rw [if_pos hc, hread]
        rfl
      all_goals
        rename_i heq
        cases heq
        exact absurd hc (by decide)

theorem assembled_minusZero (rest : List Char) :
    assembled true 0 (-1) rest = .ok (.double (.zero true), rest) := by
  have hzero : (Binary64.ofNat 0).bind (scaledBy · (-1)) = some (.zero false) := by
    decide +kernel
  rw [assembled, hzero]
  rfl

/-- Minus zero is written with a point, and read back as well. -/
theorem readValue_minusZero (fuel depth : Nat) {rest : List Char} (hr : EndsNumeral rest) :
    readValue (fuel + 1) depth ("-0.0".toList ++ rest) =
      .ok (.number (.double (.zero true)), rest) := by
  have hcollect : collect 0x10000000000000000 0 ('0' :: rest) = ⟨0, 1, rest⟩ :=
    collect_append (List.forall_mem_singleton.2 rfl) hr.digit 0 (by decide)
  have hread : readNumber true ('0' :: '.' :: '0' :: rest) =
      .ok (.double (.zero true), rest) := by
    show readFraction true 0 0 ('0' :: rest) = _
    rw [readFraction, hcollect]
    simp only [hr.digit]
    show readTail true 0 (-1) rest = _
    rw [readTail, hr.exponent, if_neg Bool.false_ne_true, assembled_minusZero]
  show readValue (fuel + 1) depth ('-' :: '0' :: '.' :: '0' :: rest) = _
  rw [readValue, skipGap_cons rfl]
  simp only [hread]
  rfl

/-! ### Values are read back -/

/-- A value that is kept by a reader: its numbers are integers or minus zero, its objects hold
each key once, and at most `depth` containers stand inside one another. -/
inductive IsExact : (depth : Nat) → Json → Prop where
  | null (depth : Nat) : IsExact depth .null
  | bool (depth : Nat) (b : Bool) : IsExact depth (.bool b)
  | integer (depth : Nat) {z : Int} (fits : FitsWord z) :
      IsExact depth (.number (.integer z fits))
  | minusZero (depth : Nat) : IsExact depth (.number (.double (.zero true)))
  | string (depth : Nat) (s : String) : IsExact depth (.string s)
  | array {depth : Nat} {items : List Json} (h : ∀ v ∈ items, IsExact depth v) :
      IsExact (depth + 1) (.array items)
  | object {depth : Nat} {ms : List (String × Json)} (keys : (ms.map Prod.fst).Nodup)
      (h : ∀ m ∈ ms, IsExact depth m.2) : IsExact (depth + 1) (.object ms)

/-- The text of a value is read back, whatever follows it, with three steps for each
character. -/
def IsReadBack (depth : Nat) (v : Json) : Prop :=
  ∀ (fuel : Nat) (rest : List Char), 3 * v.compact.length ≤ fuel → EndsNumeral rest →
    readValue fuel depth (v.compact ++ rest) = .ok (v, rest)

theorem length_compact_pos (v : Json) : 0 < v.compact.length :=
  List.length_pos_iff.2 (compact_ne_nil v)

theorem length_listText_pos (close : Char) (parts : List (List Char)) (rest : List Char) :
    0 < (listText close parts rest).length := by
  rw [listText, List.length_append, List.length_cons]
  omega

section

variable {fuel depth : Nat} {rest : List Char}

theorem readItems_close (first : Bool) :
    readItems (fuel + 1) depth first (']' :: rest) = .ok ([], rest) := by
  rw [readItems, skipGap_cons rfl]
  rfl

theorem readItems_first (v : Json) (items : List Json) :
    readItems (fuel + 1) depth true (itemsText (v :: items) rest) =
      readItem fuel depth (itemsText (v :: items) rest) := by
  obtain ⟨c, t, htext, hgap, hclose⟩ := itemsText_head v items rest
  rw [readItems, htext, skipGap_cons hgap]
  split
  case h_1 heq => cases heq
  case h_2 heq =>
    cases heq
    exact absurd rfl hclose
  case h_3 heq =>
    cases heq
    rfl

theorem readItems_comma (v : Json) (items : List Json) :
    readItems (fuel + 1) depth false (',' :: itemsText (v :: items) rest) =
      readItem fuel depth (itemsText (v :: items) rest) := by
  obtain ⟨c, t, htext, hgap, hclose⟩ := itemsText_head v items rest
  rw [readItems, skipGap_cons rfl, htext]
  split
  case h_1 heq => cases heq
  case h_2 heq => cases heq
  case h_3 heq =>
    cases heq
    rw [if_neg Bool.false_ne_true, if_pos rfl, skipGap_cons hgap]
    split
    case h_1 heq =>
      cases heq
      exact absurd rfl hclose
    case h_2 heq => cases heq
    case h_3 => rfl

/-- Items are read one by one. -/
theorem readItem_itemsText {v : Json} {items : List Json}
    (h : ∀ w ∈ v :: items, IsReadBack depth w)
    (hf : 3 * (itemsText (v :: items) []).length ≤ fuel + 1) :
    readItem fuel depth (itemsText (v :: items) rest) = .ok (v :: items, rest) := by
  have hlength := length_compact_pos v
  induction items generalizing v fuel with
  | nil =>
    rw [itemsText_singleton, List.length_append, List.length_singleton] at hf
    obtain ⟨fuel, rfl⟩ : ∃ n, fuel = n + 2 := ⟨fuel - 2, by omega⟩
    have hv := h v List.mem_cons_self (fuel + 1) _ (by omega)
      (endsNumeral_cons (.inr (.inl rfl)) rest)
    rw [itemsText_singleton, readItem, hv]
    show (readItems (fuel + 1) depth false (']' :: rest) >>= _) = _
    rw [readItems_close]
    rfl
  | cons w items ih =>
    rw [itemsText_cons_cons, List.length_append, List.length_cons] at hf
    obtain ⟨fuel, rfl⟩ : ∃ n, fuel = n + 2 := ⟨fuel - 2, by omega⟩
    have hv := h v List.mem_cons_self (fuel + 1) _ (by omega)
      (endsNumeral_cons (.inl rfl) (itemsText (w :: items) rest))
    rw [itemsText_cons_cons, readItem, hv]
    show (readItems (fuel + 1) depth false (',' :: itemsText (w :: items) rest) >>= _) = _
    rw [readItems_comma, ih (fun u hu => h u (List.mem_cons_of_mem _ hu)) (by omega)
      (length_compact_pos w)]
    rfl

theorem readKey_flatMap (key : String) :
    readKey (key.toList.flatMap escapedChar ++ '"' :: ':' :: rest) = .ok (key, rest) := by
  rw [readKey, stringBody_flatMap]
  show Except.ok (String.ofList key.toList, rest) = _
  rw [String.ofList_toList]

theorem readMembers_close (first : Bool) :
    readMembers (fuel + 1) depth first ('\x7d' :: rest) = .ok ([], rest) := by
  rw [readMembers, skipGap_cons rfl]
  rfl

/-- Members are read one by one, the first behind the quote of its key. -/
theorem readMember_membersText {m : String × Json} {ms : List (String × Json)}
    (h : ∀ n ∈ m :: ms, IsReadBack depth n.2)
    (hf : 3 * (membersText (m :: ms) []).length ≤ fuel + 1) :
    ∃ t, membersText (m :: ms) rest = '"' :: t ∧
      readMember fuel depth t = .ok (m :: ms, rest) := by
  have hlength := length_compact_pos m.2
  have hmember := length_compact_lt m
  induction ms generalizing m fuel with
  | nil =>
    rw [membersText_singleton, List.length_append, List.length_singleton] at hf
    obtain ⟨fuel, rfl⟩ : ∃ n, fuel = n + 2 := ⟨fuel - 2, by omega⟩
    have hv := h m List.mem_cons_self (fuel + 1) _ (by omega)
      (endsNumeral_cons (.inr (.inr rfl)) rest)
    refine ⟨m.1.toList.flatMap escapedChar ++ '"' :: ':' :: (m.2.compact ++ '\x7d' :: rest), ?_, ?_⟩
    · rw [membersText_singleton, memberText_append, stringText]
      simp only [List.cons_append, List.append_assoc, List.nil_append]
    · rw [readMember, readKey_flatMap]
      show (readValue (fuel + 1) depth _ >>= _) = _
      rw [hv]
      show (readMembers (fuel + 1) depth false ('\x7d' :: rest) >>= _) = _
      rw [readMembers_close]
      rfl
  | cons n ms ih =>
    rw [membersText_cons_cons, List.length_append, List.length_cons] at hf
    obtain ⟨fuel, rfl⟩ : ∃ n, fuel = n + 2 := ⟨fuel - 2, by omega⟩
    have hv := h m List.mem_cons_self (fuel + 1) _ (by omega)
      (endsNumeral_cons (.inl rfl) (membersText (n :: ms) rest))
    obtain ⟨t, ht, hread⟩ : ∃ t, membersText (n :: ms) rest = '"' :: t ∧
        readMember fuel depth t = .ok (n :: ms, rest) :=
      ih (fun u hu => h u (List.mem_cons_of_mem _ hu)) (by omega) (length_compact_pos n.2)
        (length_compact_lt n)
    refine ⟨m.1.toList.flatMap escapedChar ++
      '"' :: ':' :: (m.2.compact ++ ',' :: membersText (n :: ms) rest), ?_, ?_⟩
    · rw [membersText_cons_cons, memberText_append, stringText]
      simp only [List.cons_append, List.append_assoc, List.nil_append]
    · rw [readMember, readKey_flatMap]
      show (readValue (fuel + 1) depth _ >>= _) = _
      rw [hv, ht]
      show (readMembers (fuel + 1) depth false (',' :: '"' :: t) >>= _) = _
      rw [readMembers, skipGap_cons rfl]
      show (readMember fuel depth t >>= _) = _
      rw [hread]
      rfl

theorem readItems_itemsText {items : List Json} (h : ∀ v ∈ items, IsReadBack depth v)
    (hf : 3 * (itemsText items []).length ≤ fuel) :
    readItems fuel depth true (itemsText items rest) = .ok (items, rest) := by
  have hlength : 0 < (itemsText items []).length := length_listText_pos ..
  obtain ⟨fuel, rfl⟩ : ∃ n, fuel = n + 1 := ⟨fuel - 1, by omega⟩
  cases items with
  | nil => exact readItems_close true
  | cons v items => rw [readItems_first, readItem_itemsText h hf]

theorem readMembers_membersText {ms : List (String × Json)}
    (h : ∀ m ∈ ms, IsReadBack depth m.2) (hf : 3 * (membersText ms []).length ≤ fuel) :
    readMembers fuel depth true (membersText ms rest) = .ok (ms, rest) := by
  have hlength : 0 < (membersText ms []).length := length_listText_pos ..
  obtain ⟨fuel, rfl⟩ : ∃ n, fuel = n + 1 := ⟨fuel - 1, by omega⟩
  cases ms with
  | nil => exact readMembers_close true
  | cons m ms =>
    obtain ⟨t, ht, hread⟩ : ∃ t, membersText (m :: ms) rest = '"' :: t ∧
        readMember fuel depth t = .ok (m :: ms, rest) := readMember_membersText h hf
    rw [ht, readMembers, skipGap_cons rfl]
    exact hread

end

theorem setMember_of_not_mem {key : String} {ms : List (String × Json)}
    (h : key ∉ ms.map Prod.fst) (value : Json) : setMember key value ms = ms ++ [(key, value)] := by
  induction ms with
  | nil => rfl
  | cons m ms ih =>
    rw [List.map_cons, List.mem_cons, not_or] at h
    rw [setMember, if_neg (Ne.symm h.1), ih h.2, List.cons_append]

theorem foldl_setMember {ms ns : List (String × Json)} (h : ((ns ++ ms).map Prod.fst).Nodup) :
    ms.foldl (fun os m => setMember m.1 m.2 os) ns = ns ++ ms := by
  induction ms generalizing ns with
  | nil => rw [List.foldl_nil, List.append_nil]
  | cons m ms ih =>
    have hkey : m.1 ∉ ns.map Prod.fst := by
      rw [List.map_append, List.map_cons, List.nodup_append] at h
      exact fun hm => h.2.2 m.1 hm m.1 List.mem_cons_self rfl
    rw [List.append_cons] at h ⊢
    rw [List.foldl_cons, setMember_of_not_mem hkey, ih h]

/-- Members with different keys are an object as they stand. -/
theorem ofPairs_eq {ms : List (String × Json)} (h : (ms.map Prod.fst).Nodup) :
    ofPairs ms = .object ms := by
  have hfold : ms.foldl (fun os m => setMember m.1 m.2 os) [] = [] ++ ms := foldl_setMember h
  rw [ofPairs, hfold, List.nil_append]

/-- One step is left for a value, since its text is not empty. -/
theorem isReadBack_of_step {depth : Nat} {v : Json}
    (h : ∀ (fuel : Nat) (rest : List Char), 3 * v.compact.length ≤ fuel + 1 → EndsNumeral rest →
      readValue (fuel + 1) depth (v.compact ++ rest) = .ok (v, rest)) : IsReadBack depth v := by
  intro fuel rest hf hr
  have hlength := length_compact_pos v
  obtain ⟨fuel, rfl⟩ : ∃ n, fuel = n + 1 := ⟨fuel - 1, by omega⟩
  exact h fuel rest hf hr

/-- A written value is read back, whatever follows it. -/
theorem isReadBack {depth : Nat} {v : Json} (h : IsExact depth v) : IsReadBack depth v := by
  induction h with
  | null depth =>
    refine isReadBack_of_step fun fuel rest hf hr => ?_
    show readValue (fuel + 1) depth ('n' :: ("ull".toList ++ rest)) = _
    rw [readValue, skipGap_cons rfl]
    rfl
  | bool depth b =>
    refine isReadBack_of_step fun fuel rest hf hr => ?_
    cases b with
    | true =>
      show readValue (fuel + 1) depth ('t' :: ("rue".toList ++ rest)) = _
      rw [readValue, skipGap_cons rfl]
      rfl
    | false =>
      show readValue (fuel + 1) depth ('f' :: ("alse".toList ++ rest)) = _
      rw [readValue, skipGap_cons rfl]
      rfl
  | integer depth fits =>
    exact isReadBack_of_step fun fuel rest _ hr => readValue_integer fits fuel depth hr
  | minusZero depth =>
    exact isReadBack_of_step fun fuel rest _ hr => readValue_minusZero fuel depth hr
  | string depth s =>
    refine isReadBack_of_step fun fuel rest hf hr => ?_
    rw [compact, stringText, List.cons_append, List.cons_append, readValue, skipGap_cons rfl]
    simp only [List.append_assoc, List.singleton_append, stringBody_flatMap]
    show Except.ok (Json.string (String.ofList s.toList), rest) = _
    rw [String.ofList_toList]
  | array h ih =>
    refine isReadBack_of_step fun fuel rest hf hr => ?_
    rw [compact_array, List.length_cons] at hf
    rw [compact_array_append, readValue, skipGap_cons rfl]
    show (readItems fuel _ true (itemsText _ rest) >>= _) = _
    rw [readItems_itemsText ih (by omega)]
    rfl
  | object keys h ih =>
    refine isReadBack_of_step fun fuel rest hf hr => ?_
    rw [compact_object, List.length_cons] at hf
    rw [compact_object_append, readValue, skipGap_cons rfl]
    show (readMembers fuel _ true (membersText _ rest) >>= _) = _
    rw [readMembers_membersText ih (by omega)]
    show Except.ok (ofPairs _, rest) = _
    rw [ofPairs_eq keys]

/-- **A text is read back** as the value from which it was printed. -/
theorem read_text {v : Json} (h : IsExact nestingLimit v) : Json.read v.text = .ok v := by
  have hread := isReadBack h (3 * v.compact.length + 3) [] (by omega) endsNumeral_nil
  rw [List.append_nil] at hread
  rw [Json.read, text, String.toList_ofList, readList, hread]
  rfl

/-! ### Objects on one line -/

/-- A line is one object and nothing else: its members are these, each key once, and the object
is read from it. -/
structure IsObjectLine (line : String) (ms : List (String × Json)) : Prop where
  lineEnd_not_mem : '\n' ∉ line.toList
  members?_eq : Raw.members? line.toList = some (ms.map fun m => (m.1, m.2.compact))
  read_eq : Json.read line = .ok (.object ms)

theorem isObjectLine_text {ms : List (String × Json)} (h : IsExact nestingLimit (.object ms)) :
    IsObjectLine (Json.object ms).text ms where
  lineEnd_not_mem := lineEnd_not_mem_text _
  members?_eq := by rw [text, String.toList_ofList, Raw.members?_compact]
  read_eq := read_text h

end MockServer.Json
