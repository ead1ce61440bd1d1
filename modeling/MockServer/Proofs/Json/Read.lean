/-
What is read from a text.

Whatever a text says, its value holds each key of an object once and does not nest deeper
than a reader goes.  So a value that was read is read again from its own text, as long as its
numbers are integers.  Main statements:

* `isRead_of_read` — what holds of every value that is read;
* `isExact_of_isRead` — a value that was read is kept where its numbers are integers.
-/
import Mathlib.Data.List.Nodup
import MockServer.Proofs.Json.Printed

namespace MockServer.Json

/-! ### Members -/

theorem forall_mem_setMember {P : Json → Prop} {key : String} {value : Json} (hvalue : P value)
    {ms : List (String × Json)} (h : ∀ m ∈ ms, P m.2) : ∀ m ∈ setMember key value ms, P m.2 := by
  induction ms with
  | nil => exact List.forall_mem_singleton.2 hvalue
  | cons m ms ih =>
    obtain ⟨hm, hms⟩ := List.forall_mem_cons.1 h
    rw [setMember]
    split
    · exact List.forall_mem_cons.2 ⟨hvalue, hms⟩
    · exact List.forall_mem_cons.2 ⟨hm, ih hms⟩

theorem nodup_keys_setMember (key : String) (value : Json) {ms : List (String × Json)}
    (h : (ms.map Prod.fst).Nodup) : ((setMember key value ms).map Prod.fst).Nodup := by
  rw [keys_setMember]
  split
  · exact h
  · rename_i hkey
    rw [← List.concat_eq_append]
    exact h.concat hkey

theorem member?_eq_none_iff {key : String} {ms : List (String × Json)} :
    member? key ms = none ↔ key ∉ ms.map Prod.fst := by
  induction ms with
  | nil => exact iff_of_true rfl List.not_mem_nil
  | cons m ms ih =>
    rw [member?, List.map_cons, List.mem_cons, not_or, ← ih]
    split
    · rename_i hm
      simp [hm]
    · rename_i hm
      simp [Ne.symm hm]

/-- Where no two members share a key, a member is found wherever it stands. -/
theorem member?_eq_some_iff {ms : List (String × Json)} (h : (ms.map Prod.fst).Nodup)
    {key : String} {value : Json} : member? key ms = some value ↔ (key, value) ∈ ms := by
  induction ms with
  | nil => simp [member?]
  | cons m rest ih =>
    obtain ⟨k, v⟩ := m
    rw [List.map_cons, List.nodup_cons] at h
    by_cases hk : k = key
    · have hnot : (key, value) ∉ rest :=
        fun hm => h.1 (List.mem_map.2 ⟨_, hm, hk.symm⟩)
      rw [member?, if_pos hk, List.mem_cons, hk]
      simp [hnot, eq_comm]
    · rw [member?, if_neg hk, ih h.2, List.mem_cons]
      simp [Ne.symm hk]

/-! ### Values -/

/-- A value as it is read: its objects hold each key once, and at most `depth` containers stand
inside one another. -/
inductive IsRead : (depth : Nat) → Json → Prop where
  | null (depth : Nat) : IsRead depth .null
  | bool (depth : Nat) (b : Bool) : IsRead depth (.bool b)
  | number (depth : Nat) (n : JsonNumber) : IsRead depth (.number n)
  | string (depth : Nat) (s : String) : IsRead depth (.string s)
  | array {depth : Nat} {items : List Json} (h : ∀ v ∈ items, IsRead depth v) :
      IsRead (depth + 1) (.array items)
  | object {depth : Nat} {ms : List (String × Json)} (keys : (ms.map Prod.fst).Nodup)
      (h : ∀ m ∈ ms, IsRead depth m.2) : IsRead (depth + 1) (.object ms)

/-- Members that were read, one after the other, are an object. -/
theorem isRead_ofPairs {depth : Nat} {pairs : List (String × Json)}
    (h : ∀ p ∈ pairs, IsRead depth p.2) : IsRead (depth + 1) (ofPairs pairs) := by
  suffices hfold : ∀ ms : List (String × Json), (ms.map Prod.fst).Nodup →
      (∀ m ∈ ms, IsRead depth m.2) →
      IsRead (depth + 1) (.object (pairs.foldl (fun ms p => setMember p.1 p.2 ms) ms)) from
    hfold [] List.nodup_nil (List.forall_mem_nil _)
  induction pairs with
  | nil => exact fun ms => .object
  | cons p pairs ih =>
    obtain ⟨hp, hpairs⟩ := List.forall_mem_cons.1 h
    exact fun ms hkeys hms =>
      ih hpairs _ (nodup_keys_setMember p.1 p.2 hkeys) (forall_mem_setMember hp hms)

/-! ### Reading -/

theorem isRead_of_readWord {depth : Nat} {value v : Json} {word s r : List Char}
    (hvalue : IsRead depth value) (h : readWord value word s = .ok (v, r)) : IsRead depth v := by
  induction word generalizing s with
  | nil =>
    cases h
    exact hvalue
  | cons w ws ih =>
    cases s with
    | nil => cases h
    | cons c s =>
      rw [readWord] at h
      split at h
      · exact ih h
      · cases h

/-- What all that is read with some fuel consists of. -/
structure ReadsValues (fuel : Nat) : Prop where
  value : ∀ {depth s v r}, readValue fuel depth s = .ok (v, r) → IsRead depth v
  items : ∀ {depth first s vs r}, readItems fuel depth first s = .ok (vs, r) →
    ∀ v ∈ vs, IsRead depth v
  item : ∀ {depth s vs r}, readItem fuel depth s = .ok (vs, r) → ∀ v ∈ vs, IsRead depth v
  members : ∀ {depth first s ms r}, readMembers fuel depth first s = .ok (ms, r) →
    ∀ m ∈ ms, IsRead depth m.2
  member : ∀ {depth s ms r}, readMember fuel depth s = .ok (ms, r) → ∀ m ∈ ms, IsRead depth m.2

theorem readsValues_zero : ReadsValues 0 where
  value h := by
    rw [Json.readValue] at h
    cases h
  items h := by
    rw [Json.readItems] at h
    cases h
  item h := by
    rw [Json.readItem] at h
    cases h
  members h := by
    rw [Json.readMembers] at h
    cases h
  member h := by
    rw [Json.readMember] at h
    cases h

namespace ReadsValues

variable {fuel depth : Nat} {first : Bool} {s r : List Char} (reads : ReadsValues fuel)
include reads

theorem readValue {v : Json} (h : readValue (fuel + 1) depth s = .ok (v, r)) : IsRead depth v := by
  rw [Json.readValue] at h
  simp only [bind, Except.bind] at h
  split at h
  · cases h
  · cases depth with
    | zero => cases h
    | succ depth =>
      dsimp only at h
      split at h
      · cases h
      · rename_i hitems
        cases h
        exact .array (reads.items hitems)
  · cases depth with
    | zero => cases h
    | succ depth =>
      dsimp only at h
      split at h
      · cases h
      · rename_i hmembers
        cases h
        exact isRead_ofPairs (reads.members hmembers)
  · split at h
    · cases h
    · cases h
      exact .string _ _
  · split at h
    · cases h
    · cases h
      exact .number _ _
  · exact isRead_of_readWord (.null _) h
  · exact isRead_of_readWord (.bool _ _) h
  · exact isRead_of_readWord (.bool _ _) h
  · split at h
    · split at h
      · cases h
      · cases h
        exact .number _ _
    · cases h

theorem readItems {vs : List Json} (h : readItems (fuel + 1) depth first s = .ok (vs, r)) :
    ∀ v ∈ vs, IsRead depth v := by
  rw [Json.readItems] at h
  split at h
  · cases h
  · cases h
    exact List.forall_mem_nil _
  · split at h
    · exact reads.item h
    · split at h
      · split at h
        · cases h
        · cases h
        · exact reads.item h
      · cases h

theorem readItem {vs : List Json} (h : readItem (fuel + 1) depth s = .ok (vs, r)) :
    ∀ v ∈ vs, IsRead depth v := by
  rw [Json.readItem] at h
  simp only [bind, Except.bind] at h
  split at h
  · cases h
  · rename_i hvalue
    split at h
    · cases h
    · rename_i hitems
      cases h
      exact List.forall_mem_cons.2 ⟨reads.value hvalue, reads.items hitems⟩

theorem readMembers {ms : List (String × Json)}
    (h : readMembers (fuel + 1) depth first s = .ok (ms, r)) : ∀ m ∈ ms, IsRead depth m.2 := by
  rw [Json.readMembers] at h
  split at h
  · cases h
  · cases h
    exact List.forall_mem_nil _
  · split at h
    · split at h
      · exact reads.member h
      · cases h
    · split at h
      · split at h
        · exact reads.member h
        · cases h
        · cases h
        · cases h
      · cases h

theorem readMember {ms : List (String × Json)}
    (h : readMember (fuel + 1) depth s = .ok (ms, r)) : ∀ m ∈ ms, IsRead depth m.2 := by
  rw [Json.readMember] at h
  simp only [bind, Except.bind] at h
  split at h
  · cases h
  · split at h
    · cases h
    · rename_i hvalue
      split at h
      · cases h
      · rename_i hmembers
        cases h
        exact List.forall_mem_cons.2 ⟨reads.value hvalue, reads.members hmembers⟩

end ReadsValues

theorem readsValues (fuel : Nat) : ReadsValues fuel := by
  induction fuel with
  | zero => exact readsValues_zero
  | succ fuel ih =>
    exact ⟨ih.readValue, ih.readItems, ih.readItem, ih.readMembers, ih.readMember⟩

/-- What holds of every value that is read. -/
theorem isRead_of_read {text : String} {v : Json} (h : Json.read text = .ok v) :
    IsRead nestingLimit v := by
  rw [Json.read, readList] at h
  simp only [bind, Except.bind] at h
  split at h
  · cases h
  · rename_i hvalue
    split at h
    · cases h
      exact (readsValues _).value hvalue
    · cases h

/-! ### Integers -/

/-- A value whose numbers are integers that fit 64 bits; minus zero is one of them. -/
inductive HasIntegers : Json → Prop where
  | null : HasIntegers .null
  | bool (b : Bool) : HasIntegers (.bool b)
  | integer {z : Int} (fits : FitsWord z) : HasIntegers (.number (.integer z fits))
  | minusZero : HasIntegers (.number (.double (.zero true)))
  | string (s : String) : HasIntegers (.string s)
  | array {items : List Json} (h : ∀ v ∈ items, HasIntegers v) : HasIntegers (.array items)
  | object {ms : List (String × Json)} (h : ∀ m ∈ ms, HasIntegers m.2) : HasIntegers (.object ms)

/-- A value that was read is kept where its numbers are integers. -/
theorem isExact_of_isRead {depth : Nat} {v : Json} (h : IsRead depth v) (hv : HasIntegers v) :
    IsExact depth v := by
  induction h with
  | null depth => exact .null depth
  | bool depth b => exact .bool depth b
  | number depth n =>
    cases hv with
    | integer fits => exact .integer depth fits
    | minusZero => exact .minusZero depth
  | string depth s => exact .string depth s
  | array _ ih =>
    cases hv with
    | array hv => exact .array fun v hmem => ih v hmem (hv v hmem)
  | object keys _ ih =>
    cases hv with
    | object hv => exact .object keys fun m hmem => ih m hmem (hv m hmem)

end MockServer.Json
