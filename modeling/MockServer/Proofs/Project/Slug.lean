/-
The slug of a project.

A slug is read off the lower-cased name: its maximal runs of ASCII letters and digits, with
single hyphens between them.  `HasRuns` says what the runs of a text are without a word of how
they are found, and `LowerCased` leaves open which form a capital sigma takes, since neither
form is an ASCII letter.  Main statements:

* `hasRuns_iff` — a text has the runs that are found in it, and no others;
* `slugParts_of_lowerCased` — the form of a sigma makes no difference;
* `exists_slugParts` — a slug is made of lower-case letters and digits, run by run;
* `slug_of_runs` — what a slug is, how it looks, and that it is its own slug.
-/
import Mathlib.Computability.RegularExpressions
import Mathlib.Data.List.Forall2
import MockServer.Project.Name
import MockServer.Proofs.Path
import MockServer.Proofs.Text.Utf8

namespace MockServer

/-! ### Runs -/

namespace Text

/-- The maximal runs of the characters with a property, in the order of the text: a run is not
empty, no such character stands right behind it, and all others are passed over one by one. -/
inductive HasRuns (p : Char → Bool) : List Char → List (List Char) → Prop where
  | nil : HasRuns p [] []
  | pass {c : Char} {s : List Char} {runs : List (List Char)} (h : p c = false)
      (rest : HasRuns p s runs) : HasRuns p (c :: s) runs
  | run {r s : List Char} {runs : List (List Char)} (ne_nil : r ≠ [])
      (all : ∀ c ∈ r, p c = true) (ends : ∀ c, s.head? = some c → p c = false)
      (rest : HasRuns p s runs) : HasRuns p (r ++ s) (r :: runs)

/-- The lower case of a text, that of each character in order; a capital sigma may also take the
form that it has at the end of a word. -/
inductive LowerCased : List Char → List Char → Prop where
  | nil : LowerCased [] []
  | cons (c : Char) {s t : List Char} (rest : LowerCased s t) : LowerCased (c :: s) (lower c ++ t)
  | finalSigma {s t : List Char} (rest : LowerCased s t) :
      LowerCased ('\u03a3' :: s) ('\u03c2' :: t)

theorem lowerCased_lowerCase (s : String) : LowerCased s.toList (lowerCase s).toList := by
  rw [lowerCase, String.toList_ofList]
  induction s.toList with
  | nil => exact .nil
  | cons c s ih => exact .cons c ih

/-! ### ASCII letters and digits in lower case -/

/-- A lower-case ASCII letter or a digit. -/
def isSlugChar (c : Char) : Bool :=
  c.isLower || c.isDigit

theorem isSlugChar_iff {c : Char} : isSlugChar c = true ↔
    (97 ≤ c.toNat ∧ c.toNat ≤ 122) ∨ (48 ≤ c.toNat ∧ c.toNat ≤ 57) := by
  simp [isSlugChar, isLower_iff, Char.isDigit, UInt32.le_iff_toNat_le]

theorem isAsciiAlphanumeric_iff {c : Char} : isAsciiAlphanumeric c = true ↔
    isSlugChar c = true ∨ (65 ≤ c.toNat ∧ c.toNat ≤ 90) := by
  have halphanum : isAsciiAlphanumeric c = (c.isUpper || c.isLower || c.isDigit) := rfl
  rw [halphanum, ← isUpper_iff, isSlugChar]
  simp only [Bool.or_eq_true]
  tauto

theorem lower_of_isSlugChar {c : Char} (h : isSlugChar c = true) : lower c = [c] := by
  rcases Bool.or_eq_true_iff.1 h with hlower | hdigit
  · exact lower_of_isLower hlower
  · exact lower_of_isDigit hdigit

/-- A number that no character has stands for that with the number 0. -/
theorem toNat_ofNat_or (n : Nat) : (Char.ofNat n).toNat = n ∨ (Char.ofNat n).toNat = 0 := by
  by_cases h : n.isValidChar
  · exact .inl (toNat_ofNat h)
  · rw [Char.ofNat, dif_neg h]
    exact .inr rfl

/-- No run of the table leads to a capital ASCII letter. -/
theorem lt_of_mem_lowerRuns : ∀ run ∈ lowerRuns, (90 : Int) < run.1 + run.2.2.2 := by
  decide +kernel

/-- Lower case has no capital ASCII letter. -/
theorem isSlugChar_of_mem_lower {c d : Char} (hd : d ∈ lower c)
    (h : isAsciiAlphanumeric d = true) : isSlugChar d = true := by
  refine (isAsciiAlphanumeric_iff.1 h).resolve_right fun hupper => ?_
  rw [lower] at hd
  split at hd
  · rw [List.mem_singleton] at hd
    have hcase : d.isUpper = true := isUpper_iff.2 hupper
    rw [hd, isUpper_toLower] at hcase
    cases hcase
  · split at hd
    · rw [List.mem_cons, List.mem_singleton] at hd
      rcases hd with rfl | rfl <;> revert hupper <;> decide
    · split at hd
      · rename_i first last step shift hrun
        rw [List.mem_singleton] at hd
        have hlow : (90 : Int) < first + shift :=
          lt_of_mem_lowerRuns _ (List.mem_of_find?_eq_some hrun)
        have hheld := List.find?_some hrun
        simp only [Bool.and_eq_true, decide_eq_true_eq] at hheld
        rcases toNat_ofNat_or ((c.toNat : Int) + shift).toNat with hn | hn
        all_goals
          rw [hd, hn] at hupper
          omega
      · rw [List.mem_singleton] at hd
        rw [hd] at hupper
        omega

theorem isBlank_of_isSlugChar {c : Char} (h : isSlugChar c = true) : isBlank c = false := by
  rw [isSlugChar_iff] at h
  simp [isBlank]
  omega

end Text

namespace Project

open Text

/-! ### Parts are runs -/

/-- The parts that are not empty. -/
def filledParts (parts : List (List Char)) : List (List Char) :=
  parts.filter (!·.isEmpty)

@[simp] theorem filledParts_nil_cons (parts : List (List Char)) :
    filledParts ([] :: parts) = filledParts parts := rfl

theorem filledParts_cons {part : List Char} (h : part ≠ []) (parts : List (List Char)) :
    filledParts (part :: parts) = part :: filledParts parts := by
  rw [filledParts, List.filter_cons_of_pos (by simpa using h)]
  rfl

/-- A part goes on as long as letters and digits come. -/
theorem slugParts_append {r : List Char} (h : ∀ c ∈ r, isAsciiAlphanumeric c = true)
    (part s : List Char) : slugParts part (r ++ s) = slugParts (part ++ r) s := by
  induction r generalizing part with
  | nil => rw [List.nil_append, List.append_nil]
  | cons c r ih =>
    obtain ⟨hc, hr⟩ := List.forall_mem_cons.1 h
    rw [List.cons_append, slugParts, if_pos hc, ih hr, List.append_assoc, List.singleton_append]

/-- A part ends where none comes. -/
theorem filledParts_slugParts {s part : List Char} (hpart : part ≠ [])
    (h : ∀ c, s.head? = some c → isAsciiAlphanumeric c = false) :
    filledParts (slugParts part s) = part :: filledParts (slugParts [] s) := by
  cases s with
  | nil => exact filledParts_cons hpart []
  | cons c s =>
    have hc : ¬ isAsciiAlphanumeric c = true := by rw [h c rfl]; exact Bool.false_ne_true
    rw [slugParts, if_neg hc, filledParts_cons hpart, slugParts, if_neg hc, filledParts_nil_cons]

theorem filledParts_of_hasRuns {s : List Char} {runs : List (List Char)}
    (h : HasRuns isAsciiAlphanumeric s runs) : filledParts (slugParts [] s) = runs := by
  induction h with
  | nil => rfl
  | pass hc rest ih =>
    rw [slugParts, if_neg (by rw [hc]; exact Bool.false_ne_true), filledParts_nil_cons, ih]
  | run ne_nil all ends rest ih =>
    rw [slugParts_append all, List.nil_append, filledParts_slugParts ne_nil ends, ih]

/-- The part begun and the rest of a text have the parts that are found. -/
theorem hasRuns_append_slugParts (s : List Char) {part : List Char}
    (h : ∀ c ∈ part, isAsciiAlphanumeric c = true) :
    HasRuns isAsciiAlphanumeric (part ++ s) (filledParts (slugParts part s)) := by
  induction s generalizing part with
  | nil =>
    by_cases hpart : part = []
    · rw [hpart]
      exact .nil
    · rw [slugParts, filledParts_cons hpart]
      exact .run hpart h (fun c hc => by cases hc) .nil
  | cons c s ih =>
    rw [slugParts]
    split
    · rename_i hc
      rw [List.append_cons]
      exact ih (List.forall_mem_append.2 ⟨h, by simpa using hc⟩)
    · rename_i hc
      have hfalse : isAsciiAlphanumeric c = false := by simpa using hc
      have hrest : HasRuns isAsciiAlphanumeric (c :: s) (filledParts (slugParts [] s)) :=
        .pass hfalse (ih (List.forall_mem_nil _))
      by_cases hpart : part = []
      · rw [hpart]
        exact hrest
      · rw [filledParts_cons hpart]
        refine .run hpart h (fun d hd => ?_) hrest
        rw [← Option.some.inj hd, hfalse]

/-- A text has the runs that are found in it, and no others. -/
theorem hasRuns_iff {s : List Char} {runs : List (List Char)} :
    HasRuns isAsciiAlphanumeric s runs ↔ runs = filledParts (slugParts [] s) := by
  constructor
  · intro h
    exact (filledParts_of_hasRuns h).symm
  · rintro rfl
    exact hasRuns_append_slugParts s (List.forall_mem_nil _)

/-! ### The form of a sigma -/

/-- Two characters that no slug tells apart. -/
def SameForSlugs (c d : Char) : Prop :=
  c = d ∨ isAsciiAlphanumeric c = false ∧ isAsciiAlphanumeric d = false

theorem slugParts_congr {s t : List Char} (h : List.Forall₂ SameForSlugs s t) (part : List Char) :
    slugParts part s = slugParts part t := by
  induction h generalizing part with
  | nil => rfl
  | cons hcd rest ih =>
    rcases hcd with rfl | ⟨hc, hd⟩
    · rw [slugParts, slugParts, ih, ih]
    · rw [slugParts, slugParts, if_neg (by simp [hc]), if_neg (by simp [hd]), ih]

/-- The form of a sigma makes no difference to the parts. -/
theorem slugParts_of_lowerCased {s t : List Char} (h : LowerCased s t) (part : List Char) :
    slugParts part t = slugParts part (s.flatMap lower) := by
  refine slugParts_congr ?_ part
  induction h with
  | nil => exact .nil
  | cons c rest ih =>
    rw [List.flatMap_cons]
    exact List.rel_append (List.forall₂_same.2 fun _ _ => .inl rfl) ih
  | finalSigma rest ih => exact .cons (.inr (by decide)) ih

/-! ### Slugs -/

/-- The parts of a slug with hyphens between them. -/
def hyphenated (parts : List (List Char)) : List Char :=
  List.intercalate ['-'] parts

theorem hyphenated_cons_cons (p q : List Char) (parts : List (List Char)) :
    hyphenated (p :: q :: parts) = p ++ '-' :: hyphenated (q :: parts) := by
  simp [hyphenated, List.intercalate]

theorem ofList_hyphenated (parts : List (List Char)) :
    String.ofList (hyphenated parts) = "-".intercalate (parts.map String.ofList) := by
  have hmap : (parts.map String.ofList).map String.toList = parts := by
    rw [List.map_map]
    exact (List.map_congr_left fun p _ => String.toList_ofList).trans (List.map_id parts)
  rw [← String.toList_inj, String.toList_ofList, String.toList_intercalate, hmap]
  rfl

/-- The parts of a slug: there is one, and none is empty or has a character other than
lower-case letters and digits. -/
structure IsSlugParts (parts : List (List Char)) : Prop where
  ne_nil : parts ≠ []
  part_ne_nil : ∀ p ∈ parts, p ≠ []
  chars : ∀ p ∈ parts, ∀ c ∈ p, isSlugChar c = true

/-- The runs of a name. -/
def runsOf (name : String) : List (List Char) :=
  filledParts (slugParts [] (lowerCase (displayName name)).toList)

theorem slug_eq (name : String) :
    slug name =
      if runsOf name = [] then defaultName else String.ofList (hyphenated (runsOf name)) := by
  rw [slug]
  exact ite_congr (by rw [List.isEmpty_iff]; rfl) (fun _ => rfl) fun _ => rfl

theorem mem_of_hasRuns {p : Char → Bool} {s : List Char} {runs : List (List Char)}
    (h : HasRuns p s runs) :
    ∀ r ∈ runs, r ≠ [] ∧ ∀ c ∈ r, c ∈ s ∧ p c = true := by
  induction h with
  | nil => exact List.forall_mem_nil _
  | pass hc rest ih =>
    intro r hr
    obtain ⟨hne, hall⟩ := ih r hr
    exact ⟨hne, fun c hc => ⟨List.mem_cons_of_mem _ (hall c hc).1, (hall c hc).2⟩⟩
  | run ne_nil all ends rest ih =>
    refine List.forall_mem_cons.2 ⟨⟨ne_nil, fun c hc =>
      ⟨List.mem_append_left _ hc, all c hc⟩⟩, fun r hr => ?_⟩
    obtain ⟨hne, hall⟩ := ih r hr
    exact ⟨hne, fun c hc => ⟨List.mem_append_right _ (hall c hc).1, (hall c hc).2⟩⟩

theorem runsOf_eq {name : String} {lowered : List Char}
    (h : LowerCased (displayName name).toList lowered) :
    runsOf name = filledParts (slugParts [] lowered) := by
  rw [slugParts_of_lowerCased h, runsOf, lowerCase, String.toList_ofList]

theorem isSlugParts_runsOf {name : String} (h : runsOf name ≠ []) : IsSlugParts (runsOf name) := by
  have hruns := mem_of_hasRuns (hasRuns_iff.2 (rfl : runsOf name = _))
  refine ⟨h, fun r hr => (hruns r hr).1, fun r hr c hc => ?_⟩
  obtain ⟨hmem, hletter⟩ := (hruns r hr).2 c hc
  rw [lowerCase, String.toList_ofList, List.mem_flatMap] at hmem
  obtain ⟨d, -, hlower⟩ := hmem
  exact isSlugChar_of_mem_lower hlower hletter

theorem isSlugParts_default :
    IsSlugParts [['m', 'o', 'c', 'k'], ['s', 'e', 'r', 'v', 'e', 'r']] :=
  ⟨by decide, by decide, by simp [isSlugChar]⟩

/-- Every slug is made of parts. -/
theorem exists_slugParts (name : String) :
    ∃ parts, IsSlugParts parts ∧ slug name = String.ofList (hyphenated parts) := by
  rw [slug_eq]
  split
  · refine ⟨_, isSlugParts_default, ?_⟩
    rw [← String.toList_inj, String.toList_ofList]
    decide
  · rename_i h
    exact ⟨_, isSlugParts_runsOf h, rfl⟩

/-- The parts of a slug are its runs. -/
theorem hasRuns_hyphenated {parts : List (List Char)} (h : IsSlugParts parts) :
    HasRuns isAsciiAlphanumeric (hyphenated parts) parts := by
  obtain ⟨hne, hparts, hchars⟩ := h
  have hletters : ∀ p ∈ parts, ∀ c ∈ p, isAsciiAlphanumeric c = true := fun p hp c hc =>
    isAsciiAlphanumeric_iff.2 (.inl (hchars p hp c hc))
  clear hchars
  induction parts with
  | nil => exact absurd rfl hne
  | cons p parts ih =>
    obtain ⟨hp, hrest⟩ := List.forall_mem_cons.1 hparts
    obtain ⟨hpall, hrestall⟩ := List.forall_mem_cons.1 hletters
    cases parts with
    | nil =>
      have hsingle : hyphenated [p] = p ++ [] := by simp [hyphenated, List.intercalate]
      rw [hsingle]
      exact .run hp hpall (fun c hc => by cases hc) .nil
    | cons q parts =>
      rw [hyphenated_cons_cons]
      refine .run hp hpall (fun c hc => ?_)
        (.pass (by decide) (ih (List.cons_ne_nil _ _) hrest hrestall))
      rw [← Option.some.inj hc]
      decide

theorem mem_hyphenated {parts : List (List Char)} (h : IsSlugParts parts) {c : Char}
    (hc : c ∈ hyphenated parts) : isSlugChar c = true ∨ c = '-' := by
  obtain ⟨-, -, hchars⟩ := h
  induction parts with
  | nil => cases hc
  | cons p parts ih =>
    obtain ⟨hp, hrest⟩ := List.forall_mem_cons.1 hchars
    cases parts with
    | nil =>
      simp only [hyphenated, List.intercalate, List.intersperse_singleton, List.flatten_cons,
        List.flatten_nil, List.append_nil] at hc
      exact .inl (hp c hc)
    | cons q parts =>
      rw [hyphenated_cons_cons, List.mem_append, List.mem_cons] at hc
      rcases hc with hc | hc | hc
      · exact .inl (hp c hc)
      · exact .inr hc
      · exact ih hc hrest

/-! ### The pattern of slugs -/

/-- An expression once or more often. -/
def atLeastOnce (r : RegularExpression Char) : RegularExpression Char :=
  r * r.star

/-- One of some characters. -/
def oneOf (cs : List Char) : RegularExpression Char :=
  (cs.map .char).sum

/-- A lower-case letter or a digit. -/
def slugChar : RegularExpression Char :=
  oneOf "abcdefghijklmnopqrstuvwxyz0123456789".toList

/-- Letters and digits, at least one, and hyphens with letters and digits behind them. -/
def slugPattern : RegularExpression Char :=
  atLeastOnce slugChar * (.char '-' * atLeastOnce slugChar).star

theorem mem_oneOf {cs : List Char} {c : Char} (h : c ∈ cs) : [c] ∈ (oneOf cs).matches' := by
  induction cs with
  | nil => cases h
  | cons d cs ih =>
    have hsum : oneOf (d :: cs) = .char d + oneOf cs := by
      rw [oneOf, List.map_cons, List.sum_cons]
      rfl
    rw [hsum, RegularExpression.matches'_add, Language.mem_add]
    rcases List.mem_cons.1 h with rfl | h
    · exact .inl rfl
    · exact .inr (ih h)

theorem mem_slugChar {c : Char} (h : isSlugChar c = true) : [c] ∈ slugChar.matches' := by
  have hall : ∀ n < 128, isSlugChar (Char.ofNat n) = true →
      Char.ofNat n ∈ "abcdefghijklmnopqrstuvwxyz0123456789".toList := by
    decide
  have hc : c.toNat < 128 := by
    rw [isSlugChar_iff] at h
    omega
  rw [← Char.ofNat_toNat c] at h ⊢
  exact mem_oneOf (hall c.toNat hc h)

/-- A part is letters and digits. -/
theorem mem_atLeastOnce {p : List Char} (hne : p ≠ []) (h : ∀ c ∈ p, isSlugChar c = true) :
    p ∈ (atLeastOnce slugChar).matches' := by
  cases p with
  | nil => exact absurd rfl hne
  | cons c p =>
    obtain ⟨hc, hp⟩ := List.forall_mem_cons.1 h
    refine Language.append_mem_mul (mem_slugChar hc) (Language.mem_kstar.2 ⟨p.map ([·]), ?_, ?_⟩)
    · rw [← List.flatMap_def, List.flatMap_singleton']
    · intro x hx
      obtain ⟨d, hd, rfl⟩ := List.mem_map.1 hx
      exact mem_slugChar (hp d hd)

theorem hyphenated_cons (p : List Char) (parts : List (List Char)) :
    hyphenated (p :: parts) = p ++ (parts.map ('-' :: ·)).flatten := by
  induction parts generalizing p with
  | nil => simp [hyphenated, List.intercalate]
  | cons q parts ih =>
    rw [hyphenated_cons_cons, ih, List.map_cons, List.flatten_cons, List.cons_append]

/-- Parts with hyphens between them match the pattern. -/
theorem hyphenated_mem_slugPattern {parts : List (List Char)} (h : IsSlugParts parts) :
    hyphenated parts ∈ slugPattern.matches' := by
  obtain ⟨hne, hparts, hchars⟩ := h
  cases parts with
  | nil => exact absurd rfl hne
  | cons p parts =>
    have hmatch : ∀ q ∈ p :: parts, q ∈ (atLeastOnce slugChar).matches' := fun q hq =>
      mem_atLeastOnce (hparts q hq) (hchars q hq)
    rw [hyphenated_cons]
    refine Language.append_mem_mul (hmatch p List.mem_cons_self)
      (Language.mem_kstar.2 ⟨parts.map ('-' :: ·), rfl, fun x hx => ?_⟩)
    obtain ⟨q, hq, rfl⟩ := List.mem_map.1 hx
    exact Language.append_mem_mul (a := ['-']) rfl (hmatch q (List.mem_cons_of_mem _ hq))

/-! ### What a slug is -/

theorem slug_mem_slugPattern (name : String) : (slug name).toList ∈ slugPattern.matches' := by
  obtain ⟨parts, hparts, hslug⟩ := exists_slugParts name
  rw [hslug, String.toList_ofList]
  exact hyphenated_mem_slugPattern hparts

/-- A slug is a name for a file. -/
theorem isName_slug (name : String) : Path.IsName (slug name) := by
  obtain ⟨parts, hparts, hslug⟩ := exists_slugParts name
  have hchar : ∀ c ∈ (slug name).toList, isSlugChar c = true ∨ c = '-' := by
    intro c hc
    rw [hslug, String.toList_ofList] at hc
    exact mem_hyphenated hparts hc
  have hpoint : '.' ∉ (slug name).toList := fun h => absurd (hchar _ h) (by decide)
  have hne : ∀ s : String, '.' ∈ s.toList → slug name ≠ s := by
    rintro s hs rfl
    exact hpoint hs
  refine ⟨fun h => absurd (hchar _ h) (by decide), ?_, hne ".." (by decide)⟩
  rw [Path.isIdle, Bool.or_eq_false_iff, beq_eq_false_iff_ne, beq_eq_false_iff_ne]
  exact ⟨slug_ne_empty name, hne "." (by decide)⟩

/-- Letters, digits and hyphens are their own trimming and their own lower case. -/
theorem runsOf_hyphenated {parts : List (List Char)} (h : IsSlugParts parts) :
    runsOf (String.ofList (hyphenated parts)) = parts := by
  have hchar : ∀ c ∈ hyphenated parts, isBlank c = false ∧ lower c = [c] := by
    intro c hc
    rcases mem_hyphenated h hc with hslug | rfl
    · exact ⟨isBlank_of_isSlugChar hslug, lower_of_isSlugChar hslug⟩
    · exact ⟨by decide, by decide⟩
  have htrim : trimList (hyphenated parts) = hyphenated parts :=
    trimList_eq_self (fun c hc => (hchar c (List.mem_of_head? hc)).1)
      fun c hc => (hchar c (List.mem_of_getLast? hc)).1
  have hdisplay : displayName (String.ofList (hyphenated parts)) =
      String.ofList (hyphenated parts) := by
    rw [displayName, trim, String.toList_ofList, htrim]
    exact if_neg (ofList_intercalate_ne_empty h.ne_nil h.part_ne_nil)
  have hlower : (hyphenated parts).flatMap lower = hyphenated parts := by
    rw [List.flatMap_congr fun c hc => (hchar c hc).2, List.flatMap_singleton']
  rw [runsOf, hdisplay, lowerCase, String.toList_ofList, String.toList_ofList, hlower]
  exact (hasRuns_iff.1 (hasRuns_hyphenated h)).symm

theorem slug_hyphenated {parts : List (List Char)} (h : IsSlugParts parts) :
    slug (String.ofList (hyphenated parts)) = String.ofList (hyphenated parts) := by
  rw [slug_eq, runsOf_hyphenated h, if_neg h.ne_nil]

/-- **What a slug is.**  Whichever form a capital sigma takes in lower case, a slug is made of
the maximal runs of ASCII letters and digits of the lower-cased name that is shown, in order and
with single hyphens between them; it is the default where there is no run.  So it matches the
pattern of slugs, is the name of one file, and is its own slug. -/
theorem slug_of_runs (name : String) :
    LowerCased (displayName name).toList (lowerCase (displayName name)).toList
    ∧ (∀ lowered, LowerCased (displayName name).toList lowered →
      ∃ runs, HasRuns isAsciiAlphanumeric lowered runs
        ∧ (∀ others, HasRuns isAsciiAlphanumeric lowered others → others = runs)
        ∧ slug name = if runs = [] then "mock-server"
            else "-".intercalate (runs.map String.ofList))
    ∧ (slug name).toList ∈ slugPattern.matches'
    ∧ Path.IsName (slug name)
    ∧ slug (slug name) = slug name := by
  refine ⟨lowerCased_lowerCase _, fun lowered h => ⟨runsOf name, ?_, ?_, ?_⟩,
    slug_mem_slugPattern name, isName_slug name, ?_⟩
  · exact hasRuns_iff.2 (runsOf_eq h)
  · exact fun others hothers => (hasRuns_iff.1 hothers).trans (runsOf_eq h).symm
  · rw [slug_eq, ofList_hyphenated]
    rfl
  · obtain ⟨parts, hparts, hslug⟩ := exists_slugParts name
    rw [hslug, slug_hyphenated hparts]

/-- The Kelvin sign is a letter k in lower case, and so a part of a run. -/
example : slug " Pets \u212a2: (A--b)\n" = "pets-k2-a-b" := by decide +kernel

end Project
end MockServer
