/-
Raw texts of JSON values.

A container is taken apart one level deep: what it holds stays text, with the blanks around
it left out.  Values are only skipped on the way, by the grammar of JSON, and they may nest
to any depth.  Main statements:

* `skipValue_compact` — a written value is skipped as a whole, whatever follows it;
* `items?_compact`, `members?_compact` — a written container is taken apart into the texts
  of what it holds.

Design notes: `fuel` bounds the number of steps.  A value costs at most two steps for each
of its characters, so the fuel that a text gives is never used up.
-/
import MockServer.Json.Reader
import MockServer.Proofs.Number.Numeral

namespace MockServer.Json

open Number

/-- The text of a value that was not read. -/
abbrev Raw := List Char

/-! ### Skipping -/

/-- Skips at least one digit, and all digits behind it. -/
def skipDigits? : List Char → Option (List Char)
  | [] => none
  | c :: r => if c.isDigit then some (r.dropWhile Char.isDigit) else none

/-- Skips the digits in front of a point. -/
def skipWhole? : List Char → Option (List Char)
  | '0' :: r => some r
  | s => skipDigits? s

/-- Skips a fraction where there is one. -/
def skipFraction? : List Char → Option (List Char)
  | '.' :: r => skipDigits? r
  | s => some s

/-- Skips an exponent where there is one. -/
def skipExponent? (s : List Char) : Option (List Char) :=
  if startsExponent s then skipDigits? (splitSign (s.drop 1)).2 else some s

/-- Skips a numeral without a sign. -/
def skipMagnitude? (s : List Char) : Option (List Char) :=
  ((skipWhole? s).bind skipFraction?).bind skipExponent?

/-- Skips a numeral. -/
def skipNumeral? : List Char → Option (List Char)
  | '-' :: r => skipMagnitude? r
  | s => skipMagnitude? s

/-- A text that begins with a numeral, if with any value. -/
def startsNumeral : List Char → Bool
  | [] => false
  | c :: _ => c == '-' || c.isDigit

/-- Skips a word. -/
def skipWord? (word s : List Char) : Option (List Char) :=
  if word.isPrefixOf s then some (s.drop word.length) else none

/-- A string at the beginning of a text, and what follows it. -/
def quoted? : List Char → Option (String × List Char)
  | '"' :: r =>
    match stringBody r with
    | .ok (cs, t) => some (String.ofList cs, t)
    | .error _ => none
  | _ => none

/-- The part of a text in front of its end. -/
def before (s rest : List Char) : Raw :=
  s.take (s.length - rest.length)

mutual

/-- Skips a value. -/
def skipValue (fuel : Nat) (s : List Char) : Option (List Char) :=
  match fuel with
  | 0 => none
  | fuel + 1 =>
    if startsNumeral s then skipNumeral? s
    else match s with
    | '[' :: r => (rawItems fuel (skipGap r)).map Prod.snd
    | '\x7b' :: r => (rawMembers fuel (skipGap r)).map Prod.snd
    | '"' :: r => (quoted? ('"' :: r)).map Prod.snd
    | 't' :: r => skipWord? "rue".toList r
    | 'f' :: r => skipWord? "alse".toList r
    | 'n' :: r => skipWord? "ull".toList r
    | _ => none

/-- Takes the items of an array up to its bracket. -/
def rawItems (fuel : Nat) (s : List Char) : Option (List Raw × List Char) :=
  match fuel with
  | 0 => none
  | fuel + 1 => if s.head? = some ']' then some ([], s.drop 1) else rawItem fuel s

/-- Takes an item and those behind it. -/
def rawItem (fuel : Nat) (s : List Char) : Option (List Raw × List Char) :=
  match fuel with
  | 0 => none
  | fuel + 1 => do
    let r ← skipValue fuel s
    match skipGap r with
    | ']' :: t => some ([before s r], t)
    | ',' :: t => do
      let (raws, u) ← rawItem fuel (skipGap t)
      some (before s r :: raws, u)
    | _ => none

/-- Takes the members of an object up to its brace. -/
def rawMembers (fuel : Nat) (s : List Char) : Option (List (String × Raw) × List Char) :=
  match fuel with
  | 0 => none
  | fuel + 1 => if s.head? = some '\x7d' then some ([], s.drop 1) else rawMember fuel s

/-- Takes a member and those behind it. -/
def rawMember (fuel : Nat) (s : List Char) : Option (List (String × Raw) × List Char) :=
  match fuel with
  | 0 => none
  | fuel + 1 => do
    let (key, r) ← quoted? s
    match skipGap r with
    | ':' :: t => do
      let u ← skipValue fuel (skipGap t)
      match skipGap u with
      | '\x7d' :: w => some ([(key, before (skipGap t) u)], w)
      | ',' :: w => do
        let (ms, x) ← rawMember fuel (skipGap w)
        some ((key, before (skipGap t) u) :: ms, x)
      | _ => none
    | _ => none

end

/-! ### Views of raw texts -/

/-- The text of the one value that stands in a text. -/
def raw? (text : List Char) : Option Raw :=
  let s := skipGap text
  (skipValue (2 * s.length) s).bind fun rest =>
    if (skipGap rest).isEmpty then some (before s rest) else none

namespace Raw

/-- What was taken from a text, if nothing is left. -/
def whole? {α : Type} (taken : Option (α × List Char)) : Option α :=
  (taken.filter fun x => x.2.isEmpty).map Prod.fst

/-- The word for null. -/
def null : Raw :=
  "null".toList

/-- The items of an array. -/
def items? : Raw → Option (List Raw)
  | '[' :: r => whole? (rawItems (2 * r.length) (skipGap r))
  | _ => none

/-- The members of an object, also those whose key stands more than once. -/
def members? : Raw → Option (List (String × Raw))
  | '\x7b' :: r => whole? (rawMembers (2 * r.length) (skipGap r))
  | _ => none

/-- The text of a string. -/
def string? (s : Raw) : Option String :=
  whole? (quoted? s)

/-- A number that fits 64 bits with its sign. -/
def FitsSigned (z : Int) : Prop :=
  -0x8000000000000000 ≤ z ∧ z < 0x8000000000000000

instance (z : Int) : Decidable (FitsSigned z) :=
  inferInstanceAs (Decidable (_ ∧ _))

/-- An integer of 64 bits, written without a fraction and an exponent. -/
def integer? (s : Raw) : Option Int :=
  let (negative, ds) := splitSign s
  if ds ≠ [] ∧ ds.all Char.isDigit then
    let z : Int := if negative then -(Number.number ds : Int) else Number.number ds
    if FitsSigned z then some z else none
  else none

end Raw

/-! ### Numerals are skipped -/

/-- A text with which no numeral goes on. -/
structure EndsNumeral (s : List Char) : Prop where
  digit : startsWithDigit s = false
  point : s.head? ≠ some '.'
  exponent : startsExponent s = false

theorem skipDigits?_append {s rest : List Char} (h : IsDigits s)
    (hr : startsWithDigit rest = false) : skipDigits? (s ++ rest) = some rest := by
  have hrest : rest.dropWhile Char.isDigit = rest := by
    cases rest with
    | nil => rfl
    | cons c r => rw [List.dropWhile_cons, if_neg (by simpa [startsWithDigit] using hr)]
  cases s with
  | nil => exact absurd rfl h.nonempty
  | cons c s =>
    obtain ⟨hc, hs⟩ := List.forall_mem_cons.1 h.all
    rw [List.cons_append, skipDigits?, if_pos hc, List.dropWhile_append_of_pos hs, hrest]

theorem skipWhole?_append {s rest : List Char} (h : IsWhole s)
    (hr : startsWithDigit rest = false) : skipWhole? (s ++ rest) = some rest := by
  have hs := skipDigits?_append h.digits hr
  rw [skipWhole?.eq_def]
  split
  · rename_i r heq
    have h0 : s = ['0'] := by
      apply h.leading
      rw [← h.digits.head?_append rest, heq, List.head?_cons]
    rw [h0, List.singleton_append, List.cons.injEq] at heq
    rw [heq.2]
  · exact hs

theorem skipFraction?_append {s rest : List Char} (h : IsFraction s)
    (hd : startsWithDigit rest = false) (hp : rest.head? ≠ some '.') :
    skipFraction? (s ++ rest) = some rest := by
  cases h with
  | none =>
    rw [List.nil_append, skipFraction?.eq_def]
    split
    · exact absurd rfl hp
    · rfl
  | digits h => exact skipDigits?_append h hd

theorem skipExponent?_append {s rest : List Char} (h : IsExponent s) (hr : EndsNumeral rest) :
    skipExponent? (s ++ rest) = some rest := by
  cases h with
  | none => rw [List.nil_append, skipExponent?, if_neg (by simp [hr.exponent])]
  | digits signed h =>
    rcases signed with rfl | rfl <;> exact skipDigits?_append h hr.digit

/-- What follows a part of a numeral neither is a digit nor begins like the part before. -/
theorem skipMagnitude?_append {s rest : List Char} (h : IsMagnitude s) (hr : EndsNumeral rest) :
    skipMagnitude? (s ++ rest) = some rest := by
  obtain ⟨hw, hf, he⟩ := h
  rename_i whole fraction exponent
  have hexp : startsWithDigit (exponent ++ rest) = false ∧ (exponent ++ rest).head? ≠ some '.' := by
    cases he with
    | none => exact ⟨hr.digit, hr.point⟩
    | digits => exact ⟨rfl, by simp⟩
  have hfrac : startsWithDigit (fraction ++ (exponent ++ rest)) = false := by
    cases hf with
    | none => exact hexp.1
    | digits => rfl
  rw [skipMagnitude?, List.append_assoc, List.append_assoc, skipWhole?_append hw hfrac,
    Option.bind_some, skipFraction?_append hf hexp.1 hexp.2, Option.bind_some,
    skipExponent?_append he hr]

theorem IsMagnitude.head {s : List Char} (h : IsMagnitude s) :
    ∃ c r, s = c :: r ∧ c.isDigit = true := by
  obtain ⟨hw, -, -⟩ := h
  rename_i whole fraction exponent
  cases hwhole : whole with
  | nil => exact absurd hwhole hw.digits.nonempty
  | cons c r => exact ⟨c, _, rfl, hw.digits.all c (by simp [hwhole])⟩

theorem skipNumeral?_append {s rest : List Char} (h : IsNumeral s) (hr : EndsNumeral rest) :
    skipNumeral? (s ++ rest) = some rest := by
  cases h with
  | negative h => exact skipMagnitude?_append h hr
  | unsigned h =>
    obtain ⟨c, r, rfl, hc⟩ := IsMagnitude.head h
    rw [skipNumeral?.eq_def]
    split
    · rename_i heq
      rw [List.cons_append, List.cons.injEq] at heq
      rw [heq.1] at hc
      exact absurd hc (by decide)
    · exact skipMagnitude?_append h hr

theorem startsNumeral_append {s : List Char} (h : IsNumeral s) (rest : List Char) :
    startsNumeral (s ++ rest) = true := by
  cases h with
  | negative h => rfl
  | unsigned h =>
    obtain ⟨c, r, rfl, hc⟩ := IsMagnitude.head h
    rw [List.cons_append, startsNumeral, hc, Bool.or_true]

/-! ### Written values are skipped -/

theorem before_append (s rest : List Char) : before (s ++ rest) rest = s := by
  rw [before, List.length_append, Nat.add_sub_cancel, List.take_left]

theorem skipGap_cons {c : Char} (h : isGap c = false) (r : List Char) :
    skipGap (c :: r) = c :: r := by
  rw [skipGap, List.dropWhile_cons, if_neg (by simp [h])]

theorem quoted?_stringText (s : String) (rest : List Char) :
    quoted? (stringText s ++ rest) = some (s, rest) := by
  rw [stringText, List.cons_append, List.cons_append, List.append_assoc, List.singleton_append,
    quoted?, stringBody_flatMap]
  show some (String.ofList s.toList, rest) = _
  rw [String.ofList_toList]

theorem ne_of_isDigit {c d : Char} (hc : c.isDigit = true) (hd : d.isDigit = false) : c ≠ d := by
  rintro rfl
  rw [hc] at hd
  cases hd

theorem isGap_of_isDigit {c : Char} (hc : c.isDigit = true) : isGap c = false := by
  simp only [isGap, Bool.or_eq_false_iff, beq_eq_false_iff_ne]
  exact ⟨⟨⟨ne_of_isDigit hc rfl, ne_of_isDigit hc rfl⟩, ne_of_isDigit hc rfl⟩, ne_of_isDigit hc rfl⟩

/-- No value begins with a blank or with the bracket that ends an array. -/
theorem compact_head (v : Json) :
    ∃ c r, v.compact = c :: r ∧ isGap c = false ∧ c ≠ ']' := by
  cases v with
  | null => exact ⟨_, _, rfl, rfl, by decide⟩
  | bool b => cases b <;> exact ⟨_, _, rfl, rfl, by decide⟩
  | number n =>
    have hn := isNumeral_text n
    rw [compact]
    generalize n.text = s at hn ⊢
    cases hn with
    | negative h => exact ⟨_, _, rfl, rfl, by decide⟩
    | unsigned h =>
      obtain ⟨c, r, hs, hc⟩ := IsMagnitude.head h
      exact ⟨c, r, hs, isGap_of_isDigit hc, ne_of_isDigit hc rfl⟩
  | string s => exact ⟨_, _, rfl, rfl, by decide⟩
  | array items => exact ⟨_, _, rfl, rfl, by decide⟩
  | object ms => exact ⟨_, _, rfl, rfl, by decide⟩

theorem compact_ne_nil (v : Json) : v.compact ≠ [] := by
  obtain ⟨c, r, h, -⟩ := compact_head v
  rw [h]
  exact List.cons_ne_nil c r

theorem skipGap_compact (v : Json) (rest : List Char) :
    skipGap (v.compact ++ rest) = v.compact ++ rest := by
  obtain ⟨c, r, h, hc, -⟩ := compact_head v
  rw [h, List.cons_append, skipGap_cons hc]

theorem compactItems_eq_map (items : List Json) : compactItems items = items.map compact := by
  induction items with
  | nil => rfl
  | cons v rest ih => rw [compactItems, ih, List.map_cons]

/-- The text of a member. -/
def memberText (m : String × Json) : List Char :=
  stringText m.1 ++ ':' :: m.2.compact

theorem compactMembers_eq_map (ms : List (String × Json)) :
    compactMembers ms = ms.map memberText := by
  induction ms with
  | nil => rfl
  | cons m rest ih => rw [compactMembers, ih, List.map_cons, memberText]

/-- Parts with commas between them, up to the mark that closes them. -/
def listText (close : Char) (parts : List (List Char)) (rest : List Char) : List Char :=
  separated [','] parts ++ close :: rest

theorem listText_cons_cons (close : Char) (p q : List Char) (parts : List (List Char))
    (rest : List Char) :
    listText close (p :: q :: parts) rest = p ++ ',' :: listText close (q :: parts) rest := by
  rw [listText, listText, separated]
  · simp only [List.append_assoc, List.cons_append, List.nil_append]
  · exact List.cons_ne_nil q parts

/-- A list begins as its first part does. -/
theorem listText_cons (close c : Char) (r : List Char) (parts : List (List Char))
    (rest : List Char) : ∃ t, listText close ((c :: r) :: parts) rest = c :: t := by
  cases parts <;> exact ⟨_, rfl⟩

/-- One step is left for a list, since it holds the mark that closes it. -/
theorem exists_fuel_of_listText {close : Char} {parts : List (List Char)} {fuel : Nat}
    (h : 2 * (listText close parts []).length ≤ fuel + 1) : ∃ n, fuel = n + 1 := by
  rw [listText, List.length_append, List.length_singleton] at h
  exact ⟨fuel - 1, by omega⟩

/-- Items up to the bracket. -/
def itemsText (items : List Json) (rest : List Char) : List Char :=
  listText ']' (items.map compact) rest

/-- Members up to the brace. -/
def membersText (ms : List (String × Json)) (rest : List Char) : List Char :=
  listText '\x7d' (ms.map memberText) rest

theorem compact_array_append (items : List Json) (rest : List Char) :
    (Json.array items).compact ++ rest = '[' :: itemsText items rest := by
  rw [compact, compactItems_eq_map, itemsText, listText]
  simp only [List.cons_append, List.append_assoc, List.nil_append]

theorem compact_array (items : List Json) :
    (Json.array items).compact = '[' :: itemsText items [] := by
  rw [← compact_array_append, List.append_nil]

theorem compact_object_append (ms : List (String × Json)) (rest : List Char) :
    (Json.object ms).compact ++ rest = '\x7b' :: membersText ms rest := by
  rw [compact, compactMembers_eq_map, membersText, listText]
  simp only [List.cons_append, List.append_assoc, List.nil_append]

theorem compact_object (ms : List (String × Json)) :
    (Json.object ms).compact = '\x7b' :: membersText ms [] := by
  rw [← compact_object_append, List.append_nil]

theorem itemsText_singleton (v : Json) (rest : List Char) :
    itemsText [v] rest = v.compact ++ ']' :: rest :=
  rfl

theorem itemsText_cons_cons (v w : Json) (items : List Json) (rest : List Char) :
    itemsText (v :: w :: items) rest = v.compact ++ ',' :: itemsText (w :: items) rest :=
  listText_cons_cons ..

theorem membersText_singleton (m : String × Json) (rest : List Char) :
    membersText [m] rest = memberText m ++ '\x7d' :: rest :=
  rfl

theorem membersText_cons_cons (m n : String × Json) (ms : List (String × Json))
    (rest : List Char) :
    membersText (m :: n :: ms) rest = memberText m ++ ',' :: membersText (n :: ms) rest :=
  listText_cons_cons ..

theorem memberText_append (m : String × Json) (rest : List Char) :
    memberText m ++ rest = stringText m.1 ++ ':' :: (m.2.compact ++ rest) := by
  rw [memberText, List.append_assoc, List.cons_append]

theorem length_compact_lt (m : String × Json) : m.2.compact.length < (memberText m).length := by
  rw [memberText, List.length_append, List.length_cons]
  omega

/-- Items begin without a blank and without the bracket that ends them. -/
theorem itemsText_head (v : Json) (items : List Json) (rest : List Char) :
    ∃ c t, itemsText (v :: items) rest = c :: t ∧ isGap c = false ∧ c ≠ ']' := by
  obtain ⟨c, r, h, hc, hne⟩ := compact_head v
  obtain ⟨t, ht⟩ := listText_cons ']' c r (items.map compact) rest
  exact ⟨c, t, by rw [itemsText, List.map_cons, h, ht], hc, hne⟩

/-- Members begin with the quote of the first key. -/
theorem membersText_head (m : String × Json) (ms : List (String × Json)) (rest : List Char) :
    ∃ t, membersText (m :: ms) rest = '"' :: t :=
  listText_cons '\x7d' '"' _ (ms.map memberText) rest

theorem skipGap_itemsText (items : List Json) (rest : List Char) :
    skipGap (itemsText items rest) = itemsText items rest := by
  cases items with
  | nil => rfl
  | cons v items =>
    obtain ⟨c, t, h, hc, -⟩ := itemsText_head v items rest
    rw [h, skipGap_cons hc]

theorem skipGap_membersText (ms : List (String × Json)) (rest : List Char) :
    skipGap (membersText ms rest) = membersText ms rest := by
  cases ms with
  | nil => rfl
  | cons m ms =>
    obtain ⟨t, h⟩ := membersText_head m ms rest
    rw [h, skipGap_cons rfl]

/-- A text that begins with a mark between values does not go on with a numeral. -/
theorem endsNumeral_cons {c : Char} (h : c = ',' ∨ c = ']' ∨ c = '\x7d') (rest : List Char) :
    EndsNumeral (c :: rest) := by
  rcases h with rfl | rfl | rfl <;> exact ⟨rfl, by simp, rfl⟩

theorem endsNumeral_nil : EndsNumeral [] :=
  ⟨rfl, by simp, rfl⟩

/-- The text of a value is skipped, whatever follows it, with two steps for each character. -/
def IsSkipped (v : Json) : Prop :=
  ∀ (fuel : Nat) (rest : List Char), 2 * v.compact.length ≤ fuel → EndsNumeral rest →
    skipValue fuel (v.compact ++ rest) = some rest

/-- One step is left for a value, since its text is not empty. -/
theorem exists_fuel {v : Json} {fuel : Nat} (h : 2 * v.compact.length ≤ fuel) :
    ∃ n, fuel = n + 1 := by
  have := List.length_pos_iff.2 (compact_ne_nil v)
  exact ⟨fuel - 1, by omega⟩

/-- The texts of items are taken one by one. -/
theorem rawItem_itemsText {v : Json} {items : List Json} (h : ∀ w ∈ v :: items, IsSkipped w)
    {fuel : Nat} {rest : List Char} (hf : 2 * (itemsText (v :: items) []).length ≤ fuel + 1) :
    rawItem fuel (itemsText (v :: items) rest) = some ((v :: items).map compact, rest) := by
  -- Behind the last item the bracket follows, behind the others a comma and an item.
  induction items generalizing v fuel with
  | nil =>
    obtain ⟨fuel, rfl⟩ := exists_fuel_of_listText hf
    rw [itemsText_singleton, List.length_append, List.length_singleton] at hf
    have hv := h v List.mem_cons_self fuel _ (by omega)
      (endsNumeral_cons (.inr (.inl rfl)) rest)
    rw [itemsText_singleton, rawItem, hv, Option.bind_eq_bind, Option.bind_some,
      skipGap_cons rfl, before_append]
    rfl
  | cons w items ih =>
    obtain ⟨fuel, rfl⟩ := exists_fuel_of_listText hf
    rw [itemsText_cons_cons, List.length_append, List.length_cons] at hf
    have hv := h v List.mem_cons_self fuel _ (by omega)
      (endsNumeral_cons (.inl rfl) (itemsText (w :: items) rest))
    rw [itemsText_cons_cons, rawItem, hv, Option.bind_eq_bind, Option.bind_some,
      skipGap_cons rfl, before_append]
    show (rawItem fuel (skipGap (itemsText (w :: items) rest))).bind _ = _
    rw [skipGap_itemsText, ih (fun u hu => h u (List.mem_cons_of_mem _ hu)) (by omega)]
    rfl

/-- The texts of members are taken one by one, each with its key. -/
theorem rawMember_membersText {m : String × Json} {ms : List (String × Json)}
    (h : ∀ n ∈ m :: ms, IsSkipped n.2) {fuel : Nat} {rest : List Char}
    (hf : 2 * (membersText (m :: ms) []).length ≤ fuel + 1) :
    rawMember fuel (membersText (m :: ms) rest) =
      some ((m :: ms).map fun n => (n.1, n.2.compact), rest) := by
  have hlen := length_compact_lt m
  induction ms generalizing m fuel with
  | nil =>
    obtain ⟨fuel, rfl⟩ := exists_fuel_of_listText hf
    rw [membersText_singleton, List.length_append, List.length_singleton] at hf
    have hv := h m List.mem_cons_self fuel _ (by omega)
      (endsNumeral_cons (.inr (.inr rfl)) rest)
    rw [membersText_singleton, memberText_append, rawMember, quoted?_stringText,
      Option.bind_eq_bind, Option.bind_some]
    show (skipValue fuel (skipGap (m.2.compact ++ '\x7d' :: rest))).bind _ = _
    rw [skipGap_compact, hv, Option.bind_some, skipGap_cons rfl, before_append]
    rfl
  | cons n ms ih =>
    obtain ⟨fuel, rfl⟩ := exists_fuel_of_listText hf
    rw [membersText_cons_cons, List.length_append, List.length_cons] at hf
    have hv := h m List.mem_cons_self fuel _ (by omega)
      (endsNumeral_cons (.inl rfl) (membersText (n :: ms) rest))
    rw [membersText_cons_cons, memberText_append, rawMember, quoted?_stringText,
      Option.bind_eq_bind, Option.bind_some]
    show (skipValue fuel (skipGap (m.2.compact ++ ',' :: membersText (n :: ms) rest))).bind _ = _
    rw [skipGap_compact, hv, Option.bind_some, skipGap_cons rfl, before_append]
    show (rawMember fuel (skipGap (membersText (n :: ms) rest))).bind _ = _
    rw [skipGap_membersText, ih (fun u hu => h u (List.mem_cons_of_mem _ hu)) (by omega) (length_compact_lt n)]
    rfl

theorem rawItems_itemsText {items : List Json} (h : ∀ v ∈ items, IsSkipped v) {fuel : Nat}
    {rest : List Char} (hf : 2 * (itemsText items []).length ≤ fuel) :
    rawItems fuel (itemsText items rest) = some (items.map compact, rest) := by
  obtain ⟨fuel, rfl⟩ := exists_fuel_of_listText (Nat.le_succ_of_le hf)
  cases items with
  | nil => rfl
  | cons v items =>
    have hhead : (itemsText (v :: items) rest).head? ≠ some ']' := by
      obtain ⟨c, t, ht, -, hne⟩ := itemsText_head v items rest
      rw [ht, List.head?_cons, ne_eq, Option.some.injEq]
      exact hne
    rw [rawItems, if_neg hhead, rawItem_itemsText h hf]

theorem rawMembers_membersText {ms : List (String × Json)} (h : ∀ m ∈ ms, IsSkipped m.2)
    {fuel : Nat} {rest : List Char} (hf : 2 * (membersText ms []).length ≤ fuel) :
    rawMembers fuel (membersText ms rest) =
      some (ms.map fun n => (n.1, n.2.compact), rest) := by
  obtain ⟨fuel, rfl⟩ := exists_fuel_of_listText (Nat.le_succ_of_le hf)
  cases ms with
  | nil => rfl
  | cons m ms =>
    have hhead : (membersText (m :: ms) rest).head? ≠ some '\x7d' := by
      obtain ⟨t, ht⟩ := membersText_head m ms rest
      rw [ht, List.head?_cons, ne_eq, Option.some.injEq]
      decide
    rw [rawMembers, if_neg hhead, rawMember_membersText h hf]

theorem isSkipped_word {v : Json} {c : Char} {word : List Char} (hv : v.compact = c :: word)
    (hskip : ∀ fuel s, skipValue (fuel + 1) (c :: s) = skipWord? word s) : IsSkipped v := by
  intro fuel rest hf hr
  obtain ⟨fuel, rfl⟩ := exists_fuel hf
  rw [hv, List.cons_append, hskip, skipWord?, if_pos (by simp), List.drop_left]

theorem isSkipped_number (n : JsonNumber) : IsSkipped (.number n) := by
  intro fuel rest hf hr
  obtain ⟨fuel, rfl⟩ := exists_fuel hf
  have hn := isNumeral_text n
  show (if startsNumeral (n.text ++ rest) then skipNumeral? (n.text ++ rest) else _) = some rest
  rw [if_pos (startsNumeral_append hn rest), skipNumeral?_append hn hr]

theorem isSkipped_string (s : String) : IsSkipped (.string s) := by
  intro fuel rest hf hr
  obtain ⟨fuel, rfl⟩ := exists_fuel hf
  show (quoted? (stringText s ++ rest)).map Prod.snd = some rest
  rw [quoted?_stringText, Option.map_some]

theorem isSkipped_array {items : List Json} (h : ∀ v ∈ items, IsSkipped v) :
    IsSkipped (.array items) := by
  intro fuel rest hf hr
  obtain ⟨fuel, rfl⟩ := exists_fuel hf
  rw [compact_array, List.length_cons] at hf
  rw [compact_array_append]
  show (rawItems fuel (skipGap (itemsText items rest))).map Prod.snd = some rest
  rw [skipGap_itemsText, rawItems_itemsText h (by omega), Option.map_some]

theorem isSkipped_object {ms : List (String × Json)} (h : ∀ m ∈ ms, IsSkipped m.2) :
    IsSkipped (.object ms) := by
  intro fuel rest hf hr
  obtain ⟨fuel, rfl⟩ := exists_fuel hf
  rw [compact_object, List.length_cons] at hf
  rw [compact_object_append]
  show (rawMembers fuel (skipGap (membersText ms rest))).map Prod.snd = some rest
  rw [skipGap_membersText, rawMembers_membersText h (by omega), Option.map_some]

mutual

theorem isSkipped : ∀ v : Json, IsSkipped v
  | .null => isSkipped_word rfl fun _ _ => rfl
  | .bool true => isSkipped_word rfl fun _ _ => rfl
  | .bool false => isSkipped_word rfl fun _ _ => rfl
  | .number n => isSkipped_number n
  | .string s => isSkipped_string s
  | .array items => isSkipped_array (isSkipped_items items)
  | .object ms => isSkipped_object (isSkipped_members ms)

theorem isSkipped_items : ∀ items : List Json, ∀ v ∈ items, IsSkipped v
  | [] => fun _ hv => absurd hv List.not_mem_nil
  | v :: rest => List.forall_mem_cons.2 ⟨isSkipped v, isSkipped_items rest⟩

theorem isSkipped_members : ∀ ms : List (String × Json), ∀ m ∈ ms, IsSkipped m.2
  | [] => fun _ hm => absurd hm List.not_mem_nil
  | (_, v) :: rest => List.forall_mem_cons.2 ⟨isSkipped v, isSkipped_members rest⟩

end

/-- A written value is skipped as a whole, whatever follows it. -/
theorem skipValue_compact (v : Json) {fuel : Nat} {rest : List Char}
    (hf : 2 * v.compact.length ≤ fuel) (hr : EndsNumeral rest) :
    skipValue fuel (v.compact ++ rest) = some rest :=
  isSkipped v fuel rest hf hr

/-! ### Written values are taken apart -/

theorem raw?_compact (v : Json) : raw? v.compact = some v.compact := by
  have hgap := skipGap_compact v []
  have hskip := skipValue_compact v (Nat.le_refl _) endsNumeral_nil
  have hbefore := before_append v.compact []
  rw [List.append_nil] at hgap hskip hbefore
  rw [raw?, hgap, hskip, Option.bind_some, hbefore]
  rfl

namespace Raw

theorem items?_compact (items : List Json) :
    items? (Json.array items).compact = some (items.map compact) := by
  rw [compact_array]
  show whole? (rawItems _ (skipGap (itemsText items []))) = _
  rw [skipGap_itemsText, rawItems_itemsText (isSkipped_items items) (Nat.le_refl _)]
  rfl

theorem members?_compact (ms : List (String × Json)) :
    members? (Json.object ms).compact = some (ms.map fun m => (m.1, m.2.compact)) := by
  rw [compact_object]
  show whole? (rawMembers _ (skipGap (membersText ms []))) = _
  rw [skipGap_membersText, rawMembers_membersText (isSkipped_members ms) (Nat.le_refl _)]
  rfl

theorem string?_compact (s : String) : string? (Json.string s).compact = some s := by
  have h := quoted?_stringText s []
  rw [List.append_nil] at h
  rw [compact, string?, h]
  rfl

theorem integer?_ofNat {n : Nat} (h : n < 0x8000000000000000) :
    integer? (Json.ofNat n).compact = some (n : Int) := by
  have hd := isDigits_digits n
  have hsign : splitSign (digits n) = (false, digits n) := by
    cases hs : digits n with
    | nil => rfl
    | cons c r =>
      have hc := hd.all c (by simp [hs])
      rw [splitSign.eq_def]
      split <;> rename_i heq
      · cases heq
        exact absurd hc (by decide)
      · cases heq
        exact absurd hc (by decide)
      · rfl
  have htext : (Json.ofNat n).compact = digits n := by
    rw [Json.ofNat, JsonNumber.ofNat_eq_integer (by omega), compact]
    show integer (n : Int) = digits n
    rw [integer, if_neg (by omega), Int.natAbs_natCast]
  rw [htext, integer?, hsign]
  simp only [number_digits]
  rw [if_pos ⟨hd.nonempty, List.all_eq_true.2 hd.all⟩]
  simp only [Bool.false_eq_true, if_false]
  rw [if_pos ⟨by omega, by omega⟩]

/-- The only value that is written as the word for null is null. -/
theorem compact_ne_null {v : Json} (h : v ≠ .null) : v.compact ≠ null := by
  have hhead : ∀ {c : Char} {r : List Char}, c ≠ 'n' → c :: r ≠ null := by
    intro c r hc h0
    exact hc (Option.some.inj (congrArg List.head? h0))
  cases v with
  | null => exact absurd rfl h
  | bool b => cases b <;> exact hhead (by decide)
  | number n =>
    intro h0
    have hn := startsNumeral_append (isNumeral_text n) []
    rw [List.append_nil, show n.text = null from h0] at hn
    exact absurd hn (by decide)
  | string s => exact hhead (by decide)
  | array items => exact hhead (by decide)
  | object ms => exact hhead (by decide)

end Raw
end MockServer.Json
