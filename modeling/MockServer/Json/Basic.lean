/-
JSON values.

An object is the list of its members in authored order.  A number is an integer of
at most 64 bits or a binary64 number; the two are told apart by how they were
written, not by their value.  `setMember` is the only way an object grows: it keeps
one member per key.  Main statements:

* `member?_setMember_self` — a member that was set is found;
* `keys_setMember` — a key keeps the place it first had.

Design notes: `member?` looks from the front; on the objects that `setMember`
builds this is the only member of its key.
-/
import MockServer.Number.Binary64

namespace MockServer

open Number (Binary64)

/-- An integer that fits 64 bits, with or without a sign. -/
def FitsWord (z : Int) : Prop :=
  -0x8000000000000000 ≤ z ∧ z < 0x10000000000000000

instance (z : Int) : Decidable (FitsWord z) := by
  unfold FitsWord
  infer_instance

/-- A JSON number. -/
inductive JsonNumber where
  | integer (value : Int) (fits : FitsWord value)
  | double (value : Binary64)
  deriving DecidableEq

/-- A JSON value. -/
inductive Json where
  | null
  | bool (value : Bool)
  | number (value : JsonNumber)
  | string (value : String)
  | array (items : List Json)
  | object (members : List (String × Json))

/-- A natural number as a JSON number; one of more than 64 bits is rounded. -/
def JsonNumber.ofNat (n : Nat) : JsonNumber :=
  if h : FitsWord n then .integer n h
  else .double ((Binary64.ofNat n).getD (.zero false))

theorem JsonNumber.ofNat_eq_integer {n : Nat} (h : n < 0x10000000000000000) :
    JsonNumber.ofNat n = .integer n ⟨by omega, by omega⟩ :=
  dif_pos ⟨by omega, by omega⟩

namespace Json

/-- A natural number as a value. -/
def ofNat (n : Nat) : Json :=
  .number (.ofNat n)

/-! ### Members of objects -/

/-- The value of the first member with a key. -/
def member? (key : String) : List (String × Json) → Option Json
  | [] => none
  | (k, v) :: rest => if k = key then some v else member? key rest

/-- Sets a member: in place where the key is present, at the end where it is not. -/
def setMember (key : String) (value : Json) : List (String × Json) → List (String × Json)
  | [] => [(key, value)]
  | (k, v) :: rest =>
    if k = key then (k, value) :: rest else (k, v) :: setMember key value rest

/-! ### Views -/

/-- The members of an object; nothing for any other value. -/
def members : Json → List (String × Json)
  | .object ms => ms
  | _ => []

/-- The member of an object with a key; `none` for any other value. -/
def get? (v : Json) (key : String) : Option Json :=
  member? key v.members

/-- The text of a string. -/
def string? : Json → Option String
  | .string s => some s
  | _ => none

/-- The items of an array. -/
def array? : Json → Option (List Json)
  | .array items => some items
  | _ => none

/-- The members of an object. -/
def object? : Json → Option (List (String × Json))
  | .object ms => some ms
  | _ => none

/-- Is the value null? -/
def isNull : Json → Bool
  | .null => true
  | _ => false

/-! ### Laws -/

theorem member?_setMember_self (key : String) (value : Json) (ms : List (String × Json)) :
    member? key (setMember key value ms) = some value := by
  induction ms with
  | nil => simp [setMember, member?]
  | cons m rest ih =>
    obtain ⟨k, v⟩ := m
    by_cases h : k = key <;> simp [setMember, member?, h, ih]

theorem member?_setMember_of_ne {key other : String} (h : other ≠ key) (value : Json)
    (ms : List (String × Json)) :
    member? other (setMember key value ms) = member? other ms := by
  induction ms with
  | nil => simp [setMember, member?, Ne.symm h]
  | cons m rest ih =>
    obtain ⟨k, v⟩ := m
    by_cases hk : k = key
    · simp [setMember, member?, hk, Ne.symm h]
    · simp [setMember, member?, hk, ih]

/-- A key keeps the place it first had. -/
theorem keys_setMember (key : String) (value : Json) (ms : List (String × Json)) :
    (setMember key value ms).map Prod.fst =
      if key ∈ ms.map Prod.fst then ms.map Prod.fst else ms.map Prod.fst ++ [key] := by
  induction ms with
  | nil => simp [setMember]
  | cons m rest ih =>
    obtain ⟨k, v⟩ := m
    by_cases hk : k = key
    · simp [setMember, hk]
    · simp only [setMember, hk, if_false, List.map_cons, ih, List.mem_cons]
      by_cases hm : key ∈ rest.map Prod.fst
      · simp [hm]
      · simp [hm, Ne.symm hk]

end Json
end MockServer
