/-
Names of projects.

`displayName` is the name as it is shown, and `slug` the name as files are called:
lower-case ASCII letters and digits, with single hyphens between its parts.  Main
statement: `slug_ne_empty` — every project has a slug.
-/
import MockServer.Text.Blank
import MockServer.Text.Ascii
import MockServer.Text.LowerCase

namespace MockServer.Project

/-- The name of a project that has none. -/
def defaultName : String := "mock-server"

/-- The trimmed name, or the default for a blank one. -/
def displayName (name : String) : String :=
  let trimmed := Text.trim name
  if trimmed = "" then defaultName else trimmed

/-- The parts of a text between the characters that are no ASCII letters and digits;
`part` is the part begun. -/
def slugParts (part : List Char) : List Char → List (List Char)
  | [] => [part]
  | c :: r =>
    if Text.isAsciiAlphanumeric c then slugParts (part ++ [c]) r else part :: slugParts [] r

/-- The name in a form for files. -/
def slug (name : String) : String :=
  let parts := (slugParts [] (Text.lowerCase (displayName name)).toList).filter (!·.isEmpty)
  if parts.isEmpty then defaultName
  else String.ofList (List.intercalate ['-'] parts)

theorem displayName_ne_empty (name : String) : displayName name ≠ "" := by
  simp only [displayName]
  split
  · decide
  · assumption

theorem intercalate_ne_nil {parts : List (List Char)} (hne : parts ≠ [])
    (h : ∀ p ∈ parts, p ≠ []) : List.intercalate ['-'] parts ≠ [] := by
  cases parts with
  | nil => exact absurd rfl hne
  | cons p rest =>
    have hp := h p (by simp)
    cases rest with
    | nil => simpa [List.intercalate] using hp
    | cons q rest => simp [List.intercalate, hp]

/-- Parts with something between them make a text. -/
theorem ofList_intercalate_ne_empty {parts : List (List Char)} (hne : parts ≠ [])
    (h : ∀ p ∈ parts, p ≠ []) : String.ofList (List.intercalate ['-'] parts) ≠ "" := by
  intro he
  have hl := congrArg String.toList he
  rw [String.toList_ofList] at hl
  exact intercalate_ne_nil hne h hl

/-- Every project has a slug. -/
theorem slug_ne_empty (name : String) : slug name ≠ "" := by
  simp only [slug]
  generalize (slugParts [] (Text.lowerCase (displayName name)).toList) = parts
  split
  · decide
  · rename_i hne
    refine ofList_intercalate_ne_empty (fun he => hne (by rw [he]; rfl)) ?_
    intro p hp he
    have := (List.mem_filter.1 hp).2
    rw [he] at this
    cases this

end MockServer.Project
