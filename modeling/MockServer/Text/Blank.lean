/-
White space, as Unicode counts it, and trimming.

`isBlank` holds of exactly the characters with the White_Space property, and
`trim` drops them from both ends of a text.  Main statements:

* `trimList_trimList` — trimming twice is trimming once;
* `trimList_eq_self` — a text whose two ends are not blank is its own trimming.
-/
namespace MockServer.Text

/-- The characters with the White_Space property: the six ASCII ones, and the
next-line, no-break, Ogham, typographic, line and paragraph separators. -/
def isBlank (c : Char) : Bool :=
  let n := c.toNat
  (9 ≤ n && n ≤ 13) || n == 0x20 || n == 0x85 || n == 0xa0 || n == 0x1680
    || (0x2000 ≤ n && n ≤ 0x200a) || n == 0x2028 || n == 0x2029 || n == 0x202f
    || n == 0x205f || n == 0x3000

/-- Drops white space from both ends. -/
def trimList (s : List Char) : List Char :=
  ((s.dropWhile isBlank).reverse.dropWhile isBlank).reverse

/-- Drops white space from both ends of a text. -/
def trim (s : String) : String :=
  String.ofList (trimList s.toList)

/-- A text of white space only. -/
def isBlankText (s : String) : Bool :=
  s.toList.all isBlank

/-! ### Trimming -/

@[simp] theorem trimList_nil : trimList [] = [] := rfl

@[simp] theorem toList_trim (s : String) : (trim s).toList = trimList s.toList := by
  simp [trim]

/-- Nothing is dropped where the first character is not blank. -/
theorem dropWhile_isBlank_cons {c : Char} {s : List Char} (h : isBlank c = false) :
    (c :: s).dropWhile isBlank = c :: s := by
  simp [h]

/-- A text whose first and last characters are not blank is its own trimming. -/
theorem trimList_eq_self {s : List Char}
    (first : ∀ c, s.head? = some c → isBlank c = false)
    (last : ∀ c, s.getLast? = some c → isBlank c = false) : trimList s = s := by
  cases s with
  | nil => rfl
  | cons c r =>
    have hc : isBlank c = false := first c rfl
    rw [trimList, dropWhile_isBlank_cons hc]
    cases hr : (c :: r).reverse with
    | nil => simp at hr
    | cons d t =>
      have hd : isBlank d = false := by
        refine last d ?_
        rw [List.getLast?_eq_head?_reverse, hr]
        rfl
      rw [dropWhile_isBlank_cons hd, ← hr, List.reverse_reverse]

theorem head?_dropWhile_isBlank (s : List Char) {c : Char}
    (h : (s.dropWhile isBlank).head? = some c) : isBlank c = false := by
  induction s with
  | nil => simp at h
  | cons d r ih =>
    by_cases hd : isBlank d = true
    · rw [List.dropWhile_cons, if_pos hd] at h
      exact ih h
    · rw [List.dropWhile_cons, if_neg hd] at h
      simp only [List.head?_cons, Option.some.injEq] at h
      rw [← h]
      simpa using hd

theorem getLast?_dropWhile_isBlank (s : List Char) {c : Char}
    (h : (s.dropWhile isBlank).getLast? = some c) : s.getLast? = some c := by
  obtain ⟨t, ht⟩ := List.dropWhile_suffix (l := s) isBlank
  rw [← ht, List.getLast?_append, h]
  rfl

/-- The first character of a trimmed text is not blank. -/
theorem head?_trimList {s : List Char} {c : Char} (h : (trimList s).head? = some c) :
    isBlank c = false := by
  rw [trimList, ← List.getLast?_eq_head?_reverse] at h
  have := getLast?_dropWhile_isBlank _ h
  rw [List.getLast?_reverse] at this
  exact head?_dropWhile_isBlank s this

/-- The last character of a trimmed text is not blank. -/
theorem getLast?_trimList {s : List Char} {c : Char} (h : (trimList s).getLast? = some c) :
    isBlank c = false := by
  rw [trimList, List.getLast?_reverse] at h
  exact head?_dropWhile_isBlank _ h

/-- Trimming twice is trimming once. -/
@[simp] theorem trimList_trimList (s : List Char) : trimList (trimList s) = trimList s :=
  trimList_eq_self (fun _ h => head?_trimList h) (fun _ h => getLast?_trimList h)

/-- Trimming leaves nothing of white space, and something of any other text. -/
theorem trimList_eq_nil_iff {s : List Char} : trimList s = [] ↔ s.all isBlank = true := by
  induction s with
  | nil => simp
  | cons c r ih =>
    by_cases hc : isBlank c = true
    · have hdrop : trimList (c :: r) = trimList r := by
        rw [trimList, trimList, List.dropWhile_cons, if_pos hc]
      rw [hdrop, ih, List.all_cons, hc, Bool.true_and]
    · -- The first character that is not blank is kept.
      have hkept : trimList (c :: r) ≠ [] := by
        rw [trimList, dropWhile_isBlank_cons (by simpa using hc), List.reverse_cons,
          List.dropWhile_append]
        split <;> simp [hc]
      simp [hkept, hc]

theorem trim_eq_empty_iff {s : String} : trim s = "" ↔ isBlankText s = true := by
  rw [← String.toList_eq_nil_iff, toList_trim, trimList_eq_nil_iff, isBlankText]

end MockServer.Text
