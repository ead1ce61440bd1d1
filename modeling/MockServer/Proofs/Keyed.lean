/-
Lists with one entry for each key.

`put` writes an entry by its key: in place of the first entry with that key, or at the
end.  Main statements:

* `keys_put` — a new key goes to the end, and a known key keeps its place;
* `find?_put` — the entry of the key is found changed, and all others as they were;
* `eraseDups_concat` — noting the keys one after the other leaves them in the order in
  which they were first seen;
* `entered_eq_some_iff` — a map into which entries of different keys were entered holds
  these entries;
* `written_eq_collapse` — entries written one after the other, each over the one of its
  key, leave the last entry of each key in the place of the first;
* `latest_collapse`, `collapse_collapse` — what is left has the same last entries, and is
  left as it is by a second time.
-/
import Mathlib.Data.List.Induction
import Mathlib.Data.List.Nodup

namespace MockServer.Keyed

variable {α β κ : Type} [DecidableEq κ]

/-- Notes a key: at the end, unless it is there already. -/
def noted (k : κ) (ks : List κ) : List κ :=
  if k ∈ ks then ks else ks ++ [k]

/-- Changes the first entry with a key, or puts a fresh one at the end. -/
def put (key : α → κ) (k : κ) (change : α → α) (fresh : α) : List α → List α
  | [] => [fresh]
  | x :: rest => if key x = k then change x :: rest else x :: put key k change fresh rest

section

variable {key : α → κ} {k : κ} {change : α → α} {fresh : α}

/-- A new key goes to the end, and a known key keeps its place. -/
theorem keys_put (hc : ∀ x, key x = k → key (change x) = k) (hf : key fresh = k) (xs : List α) :
    (put key k change fresh xs).map key = noted k (xs.map key) := by
  induction xs with
  | nil => simp [put, noted, hf]
  | cons x rest ih =>
    by_cases hx : key x = k
    · rw [put, if_pos hx, List.map_cons, hc x hx, noted, List.map_cons, hx,
        if_pos List.mem_cons_self]
    · rw [put, if_neg hx, List.map_cons, ih, noted, noted, List.map_cons]
      by_cases hm : k ∈ rest.map key
      · rw [if_pos hm, if_pos (List.mem_cons_of_mem _ hm)]
      · rw [if_neg hm, if_neg (by simpa [Ne.symm hx] using hm), List.cons_append]

/-- The entry of the key is found changed, and all others as they were. -/
theorem find?_put (hc : ∀ x, key x = k → key (change x) = k) (hf : key fresh = k)
    (xs : List α) (j : κ) :
    (put key k change fresh xs).find? (key · == j) =
      if j = k then some ((xs.find? (key · == k)).elim fresh change)
      else xs.find? (key · == j) := by
  induction xs with
  | nil =>
    by_cases hj : j = k
    · simp [put, hf, hj]
    · simp [put, hf, hj, Ne.symm hj]
  | cons x rest ih =>
    by_cases hx : key x = k
    · rw [put, if_pos hx]
      by_cases hj : j = k
      · simp [hj, hc x hx, hx]
      · simp [hj, hc x hx, hx, Ne.symm hj]
    · rw [put, if_neg hx]
      by_cases hj : j = k
      · rw [if_pos hj, List.find?_cons_of_neg (by simpa [hj] using hx), ih, if_pos hj,
          List.find?_cons_of_neg (by simpa using hx)]
      · rw [if_neg hj, List.find?_cons, List.find?_cons, ih, if_neg hj]

/-- A view that keeps the keys sees a write as a write. -/
theorem map_put {key' : β → κ} {change' : β → β} (view : α → β)
    (hkey : ∀ x, key' (view x) = key x) (hchange : ∀ x, view (change x) = change' (view x))
    (xs : List α) :
    (put key k change fresh xs).map view = put key' k change' (view fresh) (xs.map view) := by
  induction xs with
  | nil => rfl
  | cons x rest ih =>
    by_cases hx : key x = k
    · rw [put, if_pos hx, List.map_cons, List.map_cons, put, if_pos (by rw [hkey, hx]), hchange]
    · rw [put, if_neg hx, List.map_cons, List.map_cons, put, if_neg (by rwa [hkey]), ih]

end

/-! ### Keys in the order of their first sight -/

/-- Noting one more key. -/
theorem eraseDups_concat (ks : List κ) (k : κ) :
    (ks ++ [k]).eraseDups = noted k ks.eraseDups := by
  rw [List.eraseDups_append, noted]
  by_cases h : k ∈ ks
  · simp [h, List.removeAll]
  · simp [h, List.removeAll, List.eraseDups_cons]

theorem nodup_noted {k : κ} {ks : List κ} (h : ks.Nodup) : (noted k ks).Nodup := by
  rw [noted]
  split
  · exact h
  · rename_i hk
    rw [← List.concat_eq_append]
    exact h.concat hk

theorem nodup_eraseDups (ks : List κ) : ks.eraseDups.Nodup := by
  induction ks using List.reverseRecOn with
  | nil => exact List.nodup_nil
  | append_singleton ks k ih =>
    rw [eraseDups_concat]
    exact nodup_noted ih

theorem eraseDups_of_nodup {ks : List κ} (h : ks.Nodup) : ks.eraseDups = ks := by
  induction ks using List.reverseRecOn with
  | nil => rfl
  | append_singleton ks k ih =>
    obtain ⟨hks, -, hne⟩ := List.nodup_append.1 h
    have hk : k ∉ ks := fun hk => hne k hk k List.mem_cons_self rfl
    rw [eraseDups_concat, ih hks, noted, if_neg hk]

/-- Keys are left out before or after the first sights are taken. -/
theorem eraseDups_filter (p : κ → Bool) (ks : List κ) :
    (ks.filter p).eraseDups = ks.eraseDups.filter p := by
  induction ks using List.reverseRecOn with
  | nil => rfl
  | append_singleton ks k ih =>
    rw [eraseDups_concat, List.filter_append, noted]
    by_cases hp : p k = true
    · rw [List.filter_cons_of_pos hp, List.filter_nil, eraseDups_concat, ih, noted]
      simp only [List.mem_filter, hp, and_true]
      split
      · rfl
      · rw [List.filter_append, List.filter_cons_of_pos hp, List.filter_nil]
    · rw [List.filter_cons_of_neg hp, List.filter_nil, List.append_nil, ih]
      split
      · rfl
      · rw [List.filter_append, List.filter_cons_of_neg hp, List.filter_nil, List.append_nil]

/-- Where no key stands twice, every entry is found under its key. -/
theorem find?_key_of_mem {key : α → κ} {xs : List α} (h : (xs.map key).Nodup) {x : α}
    (hx : x ∈ xs) : xs.find? (key · == key x) = some x := by
  induction xs with
  | nil => cases hx
  | cons y rest ih =>
    rw [List.map_cons, List.nodup_cons] at h
    rcases List.mem_cons.1 hx with rfl | hr
    · simp
    · have hne : key y ≠ key x := fun he => h.1 (he ▸ List.mem_map_of_mem hr)
      rw [List.find?_cons_of_neg (by simpa using hne)]
      exact ih h.2 hr

/-! ### Maps -/

/-- A map after entries were entered one by one, a later one in place of an earlier one. -/
def entered (entries : List (κ × β)) (map : κ → Option β) : κ → Option β :=
  entries.foldl (fun map x => Function.update map x.1 (some x.2)) map

/-- Under a key stands what was entered, or where nothing was, what stood there before. -/
theorem entered_apply {entries : List (κ × β)} (h : (entries.map Prod.fst).Nodup)
    (map : κ → Option β) (k : κ) :
    entered entries map k = ((entries.find? (·.1 == k)).map Prod.snd).or (map k) := by
  induction entries generalizing map with
  | nil => rfl
  | cons x rest ih =>
    rw [List.map_cons, List.nodup_cons] at h
    show entered rest (Function.update map x.1 (some x.2)) k = _
    rw [ih h.2]
    by_cases hx : x.1 = k
    · have hrest : rest.find? (·.1 == k) = none := by
        rw [List.find?_eq_none]
        intro y hy hyk
        rw [beq_iff_eq] at hyk
        exact h.1 (hx.trans hyk.symm ▸ List.mem_map_of_mem hy)
      rw [hrest, List.find?_cons_of_pos (by simpa using hx), hx, Function.update_self]
      rfl
    · rw [List.find?_cons_of_neg (by simpa using hx), Function.update_of_ne (Ne.symm hx)]

/-- A list of different keys that was entered into a map is found as in the list. -/
theorem entered_map {key : α → κ} {xs : List α} (h : (xs.map key).Nodup) (value : α → β)
    (k : κ) :
    entered (xs.map fun x => (key x, value x)) (fun _ => none) k =
      (xs.find? (key · == k)).map value := by
  have hkeys : ((xs.map fun x => (key x, value x)).map Prod.fst).Nodup := by
    rwa [List.map_map]
  rw [entered_apply hkeys, Option.or_none, List.find?_map, Option.map_map]
  rfl

/-- A map into which entries of different keys were entered holds these entries. -/
theorem entered_eq_some_iff {entries : List (κ × β)} (h : (entries.map Prod.fst).Nodup)
    {k : κ} {v : β} : entered entries (fun _ => none) k = some v ↔ (k, v) ∈ entries := by
  rw [entered_apply h, Option.or_none, Option.map_eq_some_iff]
  constructor
  · rintro ⟨x, hx, rfl⟩
    have hk := List.find?_some hx
    rw [beq_iff_eq] at hk
    rw [← hk]
    exact List.mem_of_find?_eq_some hx
  · intro hmem
    exact ⟨(k, v), find?_key_of_mem h hmem, rfl⟩

/-! ### The last entry of each key -/

section

variable {key : α → κ} {xs : List α} {k : κ} {x : α}

/-- The last entry with a key. -/
def latest (key : α → κ) (xs : List α) (k : κ) : Option α :=
  (xs.filter (key · = k)).getLast?

/-- One entry for each key: the last one, in the place of the first. -/
def collapse (key : α → κ) (xs : List α) : List α :=
  (xs.map key).eraseDups.filterMap (latest key xs)

theorem latest_concat (xs : List α) (x : α) (k : κ) :
    latest key (xs ++ [x]) k = if k = key x then some x else latest key xs k := by
  rw [latest, List.filter_append]
  by_cases h : k = key x
  · simp [h]
  · rw [if_neg h, List.filter_cons_of_neg (by simpa using Ne.symm h), List.filter_nil,
      List.append_nil, latest]

theorem key_of_latest (h : latest key xs k = some x) : x ∈ xs ∧ key x = k := by
  simpa using List.mem_of_getLast? h

/-- A key that is there has a last entry. -/
theorem exists_latest (h : k ∈ xs.map key) : ∃ x, latest key xs k = some x := by
  obtain ⟨x, hx, rfl⟩ := List.mem_map.1 h
  cases hl : latest key xs (key x) with
  | some y => exact ⟨y, rfl⟩
  | none =>
    rw [latest, List.getLast?_eq_none_iff, List.filter_eq_nil_iff] at hl
    exact absurd (decide_eq_true rfl) (hl x hx)

/-- Where no key stands twice, the last entry of a key is the one that is found. -/
theorem latest_of_nodup (h : (xs.map key).Nodup) (k : κ) :
    latest key xs k = xs.find? (key · == k) := by
  cases hl : latest key xs k with
  | some x =>
    obtain ⟨hx, rfl⟩ := key_of_latest hl
    exact (find?_key_of_mem h hx).symm
  | none =>
    rw [eq_comm, List.find?_eq_none]
    intro x hx hk
    obtain ⟨y, hy⟩ := exists_latest (List.mem_map_of_mem (f := key) hx)
    rw [beq_iff_eq.1 hk, hl] at hy
    cases hy

/-- No key is passed over when a list is collapsed. -/
theorem map_some_collapse (key : α → κ) (xs : List α) :
    (collapse key xs).map some = (xs.map key).eraseDups.map (latest key xs) := by
  -- By induction over the keys; the list itself, which `latest` looks through, stays.
  have hall : ∀ ks : List κ, (∀ k ∈ ks, k ∈ xs.map key) →
      (ks.filterMap (latest key xs)).map some = ks.map (latest key xs) := by
    intro ks hks
    induction ks with
    | nil => rfl
    | cons k rest ih =>
      obtain ⟨hk, hrest⟩ := List.forall_mem_cons.1 hks
      obtain ⟨x, hx⟩ := exists_latest hk
      rw [List.filterMap_cons_some hx, List.map_cons, List.map_cons, ih hrest, hx]
  exact hall _ fun k hk => List.mem_eraseDups.1 hk

/-- Nor is one passed over when keys are left out of what a list collapses to. -/
theorem map_some_filter_collapse (p : κ → Bool) (key : α → κ) (xs : List α) :
    ((collapse key xs).filter fun x => p (key x)).map some =
      ((xs.map key).eraseDups.filter p).map (latest key xs) := by
  have hany : ∀ k ∈ (xs.map key).eraseDups,
      (latest key xs k).any (fun x => p (key x)) = p k := by
    intro k hk
    obtain ⟨x, hx⟩ := exists_latest (List.mem_eraseDups.1 hk)
    rw [hx, Option.any_some, (key_of_latest hx).2]
  calc ((collapse key xs).filter fun x => p (key x)).map some
      = ((collapse key xs).map some).filter (Option.any fun x => p (key x)) := by
        rw [List.filter_map]
        rfl
    _ = ((xs.map key).eraseDups.filter fun k =>
          (latest key xs k).any fun x => p (key x)).map (latest key xs) := by
        rw [map_some_collapse, List.filter_map]
        rfl
    _ = ((xs.map key).eraseDups.filter p).map (latest key xs) := by
        rw [List.filter_congr hany]

/-- A list with the keys of another in the order of their first sight, under each of which
the other's last entry is found, is what the other collapses to. -/
theorem eq_collapse {ys : List α} (hkeys : ys.map key = (xs.map key).eraseDups)
    (hfind : ∀ k, ys.find? (key · == k) = latest key xs k) : ys = collapse key xs := by
  have hnodup : (ys.map key).Nodup := hkeys ▸ nodup_eraseDups _
  -- `collapse` drops keys without an entry; under `some` it is plain that there is none.
  refine List.map_injective_iff.2 (fun _ _ h => Option.some.inj h) ?_
  calc ys.map some = ys.map fun y => latest key xs (key y) :=
        List.map_congr_left fun y hy => by rw [← hfind, find?_key_of_mem hnodup hy]
    _ = (ys.map key).map (latest key xs) := by
        rw [List.map_map]
        rfl
    _ = (collapse key xs).map some := by rw [hkeys, map_some_collapse]

/-- Entries written one after the other, each over the one of its key. -/
def written (key : α → κ) (xs : List α) : List α :=
  xs.foldl (fun ys x => put key (key x) (fun _ => x) x ys) []

theorem written_concat (xs : List α) (x : α) :
    written key (xs ++ [x]) = put key (key x) (fun _ => x) x (written key xs) := by
  rw [written, List.foldl_append]
  rfl

theorem keys_written (key : α → κ) (xs : List α) :
    (written key xs).map key = (xs.map key).eraseDups := by
  induction xs using List.reverseRecOn with
  | nil => rfl
  | append_singleton xs x ih =>
    rw [written_concat, keys_put (fun _ _ => rfl) rfl, ih, List.map_append]
    exact (eraseDups_concat _ _).symm

theorem find?_written (key : α → κ) (xs : List α) (k : κ) :
    (written key xs).find? (key · == k) = latest key xs k := by
  induction xs using List.reverseRecOn with
  | nil => rfl
  | append_singleton xs x ih =>
    rw [written_concat, find?_put (fun _ _ => rfl) rfl, ih, latest_concat]
    split
    · cases (written key xs).find? (key · == key x) <;> rfl
    · rfl

/-- Writing leaves the last entry of each key in the place of the first. -/
theorem written_eq_collapse (key : α → κ) (xs : List α) : written key xs = collapse key xs :=
  eq_collapse (keys_written key xs) (find?_written key xs)

theorem keys_collapse (key : α → κ) (xs : List α) :
    (collapse key xs).map key = (xs.map key).eraseDups := by
  rw [← written_eq_collapse, keys_written]

theorem nodup_keys_collapse (key : α → κ) (xs : List α) : ((collapse key xs).map key).Nodup := by
  rw [keys_collapse]
  exact nodup_eraseDups _

/-- What a list collapses to has the same last entries. -/
theorem latest_collapse (key : α → κ) (xs : List α) (k : κ) :
    latest key (collapse key xs) k = latest key xs k := by
  rw [latest_of_nodup (nodup_keys_collapse key xs), ← written_eq_collapse, find?_written]

/-- To collapse a list a second time changes nothing. -/
theorem collapse_collapse (key : α → κ) (xs : List α) :
    collapse key (collapse key xs) = collapse key xs := by
  have hnodup := nodup_keys_collapse key xs
  exact (eq_collapse (eraseDups_of_nodup hnodup).symm fun k => (latest_of_nodup hnodup k).symm).symm

/-- A view that keeps the keys sees a collapsed list as one. -/
theorem collapse_map {key' : β → κ} (view : α → β) (hview : ∀ x, key' (view x) = key x)
    (xs : List α) : collapse key' (xs.map view) = (collapse key xs).map view := by
  have hlatest : ∀ k, latest key' (xs.map view) k = (latest key xs k).map view := by
    intro k
    rw [latest, latest, List.filter_map, List.getLast?_map]
    simp only [Function.comp_def, hview]
  rw [collapse, collapse, List.map_map, List.map_filterMap]
  simp only [Function.comp_def, hview, hlatest]

/-- Keys are left out before or after a list is collapsed. -/
theorem collapse_filter (p : κ → Bool) (key : α → κ) (xs : List α) :
    collapse key (xs.filter fun x => p (key x)) = (collapse key xs).filter fun x => p (key x) := by
  have hlatest : ∀ k, p k = true →
      latest key (xs.filter fun x => p (key x)) k = latest key xs k := by
    intro k hk
    rw [latest, latest, List.filter_filter]
    congr 1
    refine List.filter_congr fun x _ => ?_
    by_cases hx : key x = k <;> simp [hx, hk]
  have hkeys : (xs.filter fun x => p (key x)).map key = (xs.map key).filter p := by
    rw [List.filter_map]
    rfl
  rw [collapse, collapse, hkeys, eraseDups_filter, List.filter_filterMap, List.filterMap_filter]
  refine List.filterMap_congr fun k _ => ?_
  cases hl : latest key xs k with
  | none =>
    split
    · rename_i hk
      rw [hlatest k hk, hl, Option.filter_none]
    · rfl
  | some x =>
    obtain ⟨-, rfl⟩ := key_of_latest hl
    rw [Option.filter_some]
    split
    · rename_i hk
      rw [hlatest _ hk, hl]
    · rfl

end

end MockServer.Keyed
