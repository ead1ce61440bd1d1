/-
Laws of paths.

Main statements:

* `isAbsolute_join` — under an absolute base every path is absolute;
* `isAbsolute_of_absolute?` — the absolute path of a path is absolute;
* `absolute?_eq_none_iff` — only the empty path has none;
* `pieces_join` — a name under a base is one piece behind those of the base.
-/
import MockServer.Path

namespace MockServer.Path

/-! ### Absolute paths -/

theorem isAbsolute_append_eq {base : String} (h : base ≠ "") (path : String) :
    isAbsolute (base ++ path) = isAbsolute base := by
  rw [isAbsolute, isAbsolute, String.toList_append]
  cases hlist : base.toList with
  | nil => exact absurd (String.toList_eq_nil_iff.1 hlist) h
  | cons c rest => rfl

theorem isAbsolute_append {base : String} (h : isAbsolute base = true) (path : String) :
    isAbsolute (base ++ path) = true := by
  have hbase : base ≠ "" := by
    rintro rfl
    cases h
  rw [isAbsolute_append_eq hbase, h]

/-- Under an absolute base every path is absolute. -/
theorem isAbsolute_join {base : String} (h : isAbsolute base = true) (path : String) :
    isAbsolute (join base path) = true := by
  rw [join]
  split
  · assumption
  · split
    · exact isAbsolute_append h path
    · exact isAbsolute_append (isAbsolute_append h "/") path

theorem isAbsolute_foldl_join {base : String} (h : isAbsolute base = true) (ps : List String) :
    isAbsolute (ps.foldl join base) = true := by
  induction ps generalizing base with
  | nil => exact h
  | cons p rest ih => exact ih (isAbsolute_join h p)

/-- The absolute path of a path is absolute. -/
theorem isAbsolute_of_absolute? {directory path output : String}
    (hdirectory : isAbsolute directory = true) (h : absolute? directory path = some output) :
    isAbsolute output = true := by
  rw [absolute?] at h
  split at h
  · cases h
  · cases h
    have hbase : isAbsolute (if (path.startsWith "//" && !path.startsWith "///") = true then "//"
        else if isAbsolute path = true then "/" else directory) = true := by
      split
      · decide
      · split
        · decide
        · exact hdirectory
    have hwhole := isAbsolute_foldl_join hbase ((pieces path).filter (!isIdle ·))
    split
    · exact isAbsolute_join hwhole ""
    · exact hwhole

/-- Only the empty path has no absolute path. -/
theorem absolute?_eq_none_iff {directory path : String} :
    absolute? directory path = none ↔ path = "" := by
  rw [absolute?]
  split
  · rename_i h
    simp only [h]
  · rename_i h
    simp only [h, reduceCtorEq]

theorem isAbsolute_eq_false_of_not_mem {path : String} (h : '/' ∉ path.toList) :
    isAbsolute path = false := by
  rw [isAbsolute, beq_eq_false_iff_ne]
  exact fun hhead => h (List.mem_of_head? hhead)

/-- A relative path stands behind its base, with a slash between them where it is missing. -/
theorem join_of_relative {path : String} (h : isAbsolute path = false) (base : String) :
    join base path =
      if base = "" || endsInSlash base then base ++ path else base ++ "/" ++ path := by
  rw [join, if_neg (by rw [h]; exact Bool.false_ne_true)]

/-- Nothing stands in front of a path under the empty base. -/
theorem join_empty_base {path : String} (h : isAbsolute path = false) : join "" path = path := by
  rw [join_of_relative h, if_pos (by rfl), String.empty_append]

theorem join_ne_empty (base : String) {path : String} (h : path ≠ "") : join base path ≠ "" := by
  have happend : ∀ s : String, s ++ path ≠ "" := by
    intro s hs
    exact h (String.append_eq_empty_iff.1 hs).2
  rw [join]
  split
  · exact h
  · split
    · exact happend base
    · exact happend (base ++ "/")

/-! ### Parents -/

/-- A path itself, or one above it. -/
inductive AtOrAbove (path : String) : String → Prop where
  | here : AtOrAbove path path
  | up {p q : String} (below : AtOrAbove path p) (parent : parent? p = some q) : AtOrAbove path q

/-! ### Names -/

/-- A name of its own: it has no slash, and is neither empty nor one of the pieces that lead
nowhere or back. -/
structure IsName (name : String) : Prop where
  slash_not_mem : '/' ∉ name.toList
  not_idle : isIdle name = false
  ne_back : name ≠ ".."

theorem IsName.isAbsolute_eq_false {name : String} (h : IsName name) : isAbsolute name = false :=
  isAbsolute_eq_false_of_not_mem h.slash_not_mem

theorem IsName.ne_empty {name : String} (h : IsName name) : name ≠ "" := by
  rintro rfl
  cases h.not_idle

theorem splitSlashes_eq_splitOn (s : List Char) : splitSlashes s = s.splitOn '/' := by
  induction s with
  | nil => rfl
  | cons c rest ih =>
    rw [List.splitOn_cons_eq_if_modifyHead, ← ih, splitSlashes]
    by_cases hc : c = '/'
    · simp [hc]
    · rw [if_neg hc, if_neg (by simpa using hc)]
      cases hrest : splitSlashes rest with
      | nil => exact absurd (ih.symm.trans hrest) (List.splitOn_ne_nil _ _)
      | cons p ps => rfl

theorem pieces_ne_nil (path : String) : pieces path ≠ [] := by
  rw [pieces, splitSlashes_eq_splitOn, ne_eq, List.map_eq_nil_iff]
  exact List.splitOn_ne_nil _ _

/-- A slash ends a piece. -/
theorem splitSlashes_append_slash (s t : List Char) :
    splitSlashes (s ++ '/' :: t) = splitSlashes s ++ splitSlashes t := by
  simp only [splitSlashes_eq_splitOn, List.splitOn_append_cons_self]

/-- A text without a slash is one piece. -/
theorem splitSlashes_of_not_mem {s : List Char} (h : '/' ∉ s) : splitSlashes s = [s] := by
  rw [splitSlashes_eq_splitOn, List.splitOn_eq_singleton h]

theorem pieces_append_slash (s t : List Char) :
    pieces (String.ofList (s ++ '/' :: t)) =
      pieces (String.ofList s) ++ pieces (String.ofList t) := by
  simp only [pieces, String.toList_ofList, splitSlashes_append_slash, List.map_append]

theorem IsName.pieces_eq {name : String} (h : IsName name) : pieces name = [name] := by
  rw [pieces, splitSlashes_of_not_mem h.slash_not_mem, List.map_singleton, String.ofList_toList]

/-- The pieces of a relative path under a base are behind those of the base, where an empty piece
at the end of the base is passed over. -/
theorem pieces_join_of_relative {base path : String} (hbase : base ≠ "")
    (hpath : isAbsolute path = false) :
    ∃ ps, pieces (join base path) = ps ++ pieces path ∧
      (pieces base = ps ∨ pieces base = ps ++ [""]) := by
  rw [join_of_relative hpath]
  by_cases hslash : endsInSlash base = true
  · obtain ⟨s, hs⟩ : ∃ s, base.toList = s ++ ['/'] := by
      rw [endsInSlash, beq_iff_eq] at hslash
      exact List.getLast?_eq_some_iff.1 hslash
    have hbase' : base = String.ofList (s ++ '/' :: []) := by rw [← hs, String.ofList_toList]
    have hjoin : base ++ path = String.ofList (s ++ '/' :: path.toList) := by
      rw [String.ext_iff, String.toList_append, hs, String.toList_ofList, List.append_assoc]
      rfl
    refine ⟨pieces (String.ofList s), ?_, .inr ?_⟩
    · rw [if_pos (by rw [hslash, Bool.or_true]), hjoin, pieces_append_slash, String.ofList_toList]
    · rw [hbase', pieces_append_slash]
      rfl
  · have hjoin : base ++ "/" ++ path = String.ofList (base.toList ++ '/' :: path.toList) := by
      simp only [String.ext_iff, String.toList_append, String.toList_ofList, List.append_assoc]
      rfl
    refine ⟨pieces base, ?_, .inl rfl⟩
    rw [if_neg (by simpa [hbase] using hslash), hjoin, pieces_append_slash, String.ofList_toList,
      String.ofList_toList]

/-- A name under a base is one piece behind those of the base. -/
theorem pieces_join {base name : String} (hbase : base ≠ "") (hname : IsName name) :
    ∃ ps, pieces (join base name) = ps ++ [name] ∧
      (pieces base = ps ∨ pieces base = ps ++ [""]) := by
  rw [← hname.pieces_eq]
  exact pieces_join_of_relative hbase hname.isAbsolute_eq_false

/-- Under any base a name is the last piece. -/
theorem exists_pieces_join (base : String) {name : String} (hname : IsName name) :
    ∃ ps, pieces (join base name) = ps ++ [name] := by
  by_cases hbase : base = ""
  · refine ⟨[], ?_⟩
    rw [hbase, join_empty_base hname.isAbsolute_eq_false, hname.pieces_eq, List.nil_append]
  · obtain ⟨ps, hpieces, -⟩ := pieces_join hbase hname
    exact ⟨ps, hpieces⟩

/-- Different names under one base are at different paths. -/
theorem join_name_inj {base name name' : String} (hname : IsName name) (hname' : IsName name') :
    join base name = join base name' ↔ name = name' := by
  have happend : ∀ s : String, s ++ name = s ++ name' ↔ name = name' := by
    intro s
    rw [← String.toList_inj, String.toList_append, String.toList_append, List.append_cancel_left_eq,
      String.toList_inj]
  rw [join_of_relative hname.isAbsolute_eq_false, join_of_relative hname'.isAbsolute_eq_false]
  split
  · exact happend base
  · exact happend (base ++ "/")

/-- A name under a base is at an absolute path just where the base is. -/
theorem isAbsolute_join_name {base name : String} (hbase : base ≠ "") (hname : IsName name) :
    isAbsolute (join base name) = isAbsolute base := by
  have hslash : base ++ "/" ≠ "" := fun h => hbase (String.append_eq_empty_iff.1 h).1
  rw [join_of_relative hname.isAbsolute_eq_false]
  split
  · exact isAbsolute_append_eq hbase name
  · rw [isAbsolute_append_eq hslash, isAbsolute_append_eq hbase]

end MockServer.Path
