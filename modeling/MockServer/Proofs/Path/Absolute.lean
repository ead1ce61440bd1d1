/-
Absolute forms of paths.

The absolute form of a path starts at an anchor and follows the pieces of the path that mean
something.  Main statements:

* `absolute?_eq` — the absolute form, from the anchor and those pieces;
* `whole_join` — the absolute form of a path under a base goes on from that of the base;
* `whole_parent` — the absolute form of the directory of a path;
* `whole_parent_whole` — a path and its absolute form have one directory.
-/
import Mathlib.Data.List.TakeWhile
import MockServer.Proofs.Path

namespace MockServer.Path

variable {directory base path : String}

/-! ### Anchors -/

/-- The number of slashes at the beginning of a path. -/
def leading (path : String) : Nat :=
  (path.toList.takeWhile (· = '/')).length

/-- Where the absolute form of a path starts: at the directory for a relative path, and else at
the root, where two slashes are neither one nor more. -/
def anchor (directory path : String) : String :=
  match leading path with
  | 0 => directory
  | 2 => "//"
  | _ => "/"

theorem leading_eq_zero_iff : leading path = 0 ↔ isAbsolute path = false := by
  rw [leading, isAbsolute]
  cases path.toList with
  | nil => simp
  | cons c rest => by_cases hc : c = '/' <;> simp [hc]

theorem leading_eq_zero_of_not_mem (h : '/' ∉ path.toList) : leading path = 0 :=
  leading_eq_zero_iff.2 (isAbsolute_eq_false_of_not_mem h)

theorem isAbsolute_congr {other : String} (h : leading path = leading other) :
    isAbsolute path = isAbsolute other := by
  rw [Bool.eq_iff_iff, ← not_iff_not, Bool.not_eq_true, Bool.not_eq_true, ← leading_eq_zero_iff,
    ← leading_eq_zero_iff, h]

theorem anchor_eq (directory path : String) : anchor directory path =
    if path.startsWith "//" && !path.startsWith "///" then "//"
    else if isAbsolute path then "/" else directory := by
  have hlist (s : String) : path.startsWith s = decide (s.toList <+: path.toList) := by
    rw [Bool.eq_iff_iff, String.startsWith_string_iff, decide_eq_true_iff]
  have hslash (c : Char) : ('/' = c) = (c = '/') := propext eq_comm
  rw [anchor, leading, hlist, hlist, isAbsolute]
  -- No more than the first three characters matter.
  rcases path.toList with _ | ⟨a, _ | ⟨b, _ | ⟨c, rest⟩⟩⟩
  · simp
  · by_cases ha : a = '/' <;> simp [ha]
  · by_cases ha : a = '/' <;> by_cases hb : b = '/' <;> simp [ha, hb, hslash]
  · by_cases ha : a = '/' <;> by_cases hb : b = '/' <;> by_cases hc : c = '/' <;>
      simp [ha, hb, hc, hslash]

theorem anchor_congr {other : String} (h : leading path = leading other) :
    anchor directory path = anchor directory other := by
  rw [anchor, anchor, h]

theorem anchor_of_isAbsolute (directory : String) (h : isAbsolute path = true) :
    anchor directory path = "/" ∨ anchor directory path = "//" := by
  rw [anchor_eq, h]
  split
  · exact .inr rfl
  · exact .inl rfl

theorem anchor_of_relative (h : isAbsolute path = false) : anchor directory path = directory := by
  rw [anchor, leading_eq_zero_iff.2 h]
  rfl

/-- Behind a character that is no slash, what follows does not matter. -/
theorem leading_append_of_mem {c : Char} (hc : c ∈ base.toList) (hslash : c ≠ '/') (path : String) :
    leading (base ++ path) = leading base := by
  rw [leading, leading, String.toList_append, List.takeWhile_append, if_neg]
  intro hlength
  have hall := (List.takeWhile_prefix (· = '/')).eq_of_length hlength
  rw [List.takeWhile_eq_self_iff] at hall
  exact hslash (of_decide_eq_true (hall c hc))

theorem leading_append_of_relative (h : isAbsolute path = false) :
    leading (base ++ path) = leading base := by
  rw [← leading_eq_zero_iff, leading, List.length_eq_zero_iff] at h
  rw [leading, leading, String.toList_append, List.takeWhile_append, h]
  split
  · rename_i hlength
    rw [List.append_nil, hlength]
  · rfl

/-- A base that does not end in a slash has another character, or none. -/
theorem exists_mem_of_not_endsInSlash (hbase : base ≠ "") (h : endsInSlash base = false) :
    ∃ c ∈ base.toList, c ≠ '/' := by
  have hnil : base.toList ≠ [] := mt String.toList_eq_nil_iff.1 hbase
  refine ⟨base.toList.getLast hnil, List.getLast_mem hnil, ?_⟩
  rw [endsInSlash, List.getLast?_eq_some_getLast hnil, beq_eq_false_iff_ne] at h
  exact fun hc => h (congrArg some hc)

theorem leading_join (base : String) (h : isAbsolute path = false) :
    leading (join base path) = leading base := by
  rw [join_of_relative h]
  split
  · exact leading_append_of_relative h
  · rename_i hslash
    simp only [Bool.or_eq_true, decide_eq_true_eq, not_or, Bool.not_eq_true] at hslash
    obtain ⟨c, hc, hne⟩ := exists_mem_of_not_endsInSlash hslash.1 hslash.2
    rw [String.append_assoc, leading_append_of_mem hc hne]

/-! ### Solid pieces -/

/-- The pieces of a path that mean something. -/
def solid (path : String) : List String :=
  (pieces path).filter (!isIdle ·)

/-- A piece that means something. -/
structure IsSolid (piece : String) : Prop where
  slash_not_mem : '/' ∉ piece.toList
  not_idle : isIdle piece = false

theorem IsName.isSolid {name : String} (h : IsName name) : IsSolid name :=
  ⟨h.slash_not_mem, h.not_idle⟩

theorem IsSolid.isAbsolute_eq_false {piece : String} (h : IsSolid piece) :
    isAbsolute piece = false :=
  isAbsolute_eq_false_of_not_mem h.slash_not_mem

theorem IsSolid.solid_eq {piece : String} (h : IsSolid piece) : solid piece = [piece] := by
  rw [solid, pieces, splitSlashes_of_not_mem h.slash_not_mem, List.map_singleton,
    String.ofList_toList, List.filter_cons_of_pos (by rw [h.not_idle]; rfl), List.filter_nil]

theorem IsSolid.ne_empty {piece : String} (h : IsSolid piece) : piece ≠ "" := by
  rintro rfl
  cases h.not_idle

theorem IsSolid.endsInSlash_append {piece : String} (h : IsSolid piece) (s : String) :
    endsInSlash (s ++ piece) = false := by
  have hnil : piece.toList ≠ [] := mt String.toList_eq_nil_iff.1 h.ne_empty
  rw [endsInSlash, String.toList_append, List.getLast?_append, List.getLast?_eq_some_getLast hnil,
    Option.some_or, beq_eq_false_iff_ne]
  exact fun hlast => h.slash_not_mem (Option.some.inj hlast ▸ List.getLast_mem hnil)

theorem slash_not_mem_of_mem_splitSlashes {s p : List Char} (h : p ∈ splitSlashes s) : '/' ∉ p := by
  induction s generalizing p with
  | nil =>
    rw [List.mem_singleton.1 h]
    exact List.not_mem_nil
  | cons c rest ih =>
    rw [splitSlashes] at h
    split at h
    · rcases List.mem_cons.1 h with rfl | h
      · exact List.not_mem_nil
      · exact ih h
    · rename_i hc
      split at h
      · rename_i q qs hrest
        rw [hrest] at ih
        rcases List.mem_cons.1 h with rfl | h
        · rw [List.mem_cons, not_or]
          exact ⟨Ne.symm hc, ih List.mem_cons_self⟩
        · exact ih (List.mem_cons_of_mem q h)
      · rw [List.mem_singleton.1 h, List.mem_singleton]
        exact Ne.symm hc

theorem slash_not_mem_of_mem_pieces {piece : String} (h : piece ∈ pieces path) :
    '/' ∉ piece.toList := by
  obtain ⟨s, hs, rfl⟩ := List.mem_map.1 h
  rw [String.toList_ofList]
  exact slash_not_mem_of_mem_splitSlashes hs

/-- The last piece of a path, where it means something, is the last solid one. -/
theorem solid_of_pieces {before : List String} {last : String}
    (hpieces : pieces path = before ++ [last]) (hlast : isIdle last = false) :
    solid path = before.filter (!isIdle ·) ++ [last] := by
  rw [solid, hpieces, List.filter_append, List.filter_cons_of_pos (by rw [hlast]; rfl),
    List.filter_nil]

theorem isSolid_of_mem_solid {piece : String} (h : piece ∈ solid path) : IsSolid piece := by
  obtain ⟨hmem, hidle⟩ := List.mem_filter.1 h
  exact ⟨slash_not_mem_of_mem_pieces hmem, by simpa using hidle⟩

theorem solid_join (base : String) (h : isAbsolute path = false) :
    solid (join base path) = solid base ++ solid path := by
  by_cases hbase : base = ""
  · rw [hbase, join_empty_base h]
    rfl
  · obtain ⟨ps, hjoin, hpieces | hpieces⟩ := pieces_join_of_relative hbase h
    · rw [solid, solid, solid, hjoin, hpieces, List.filter_append]
    · rw [solid, solid, solid, hjoin, hpieces, List.filter_append, List.filter_append]
      simp [isIdle]

/-! ### Absolute forms -/

/-- The absolute form of a path without a slash at its end. -/
def whole (directory path : String) : String :=
  (solid path).foldl join (anchor directory path)

/-- The absolute form of a path: its whole, with a slash at the end where the path has one. -/
theorem absolute?_eq (directory path : String) : absolute? directory path =
    if path = "" then none
    else some
      (if endsInSlash path then join (whole directory path) "" else whole directory path) := by
  rw [whole, anchor_eq]
  rfl

/-- The absolute form of a path under a base goes on from that of the base. -/
theorem whole_join (directory base : String) (h : isAbsolute path = false) :
    whole directory (join base path) = (solid path).foldl join (whole directory base) := by
  rw [whole, whole, solid_join base h, List.foldl_append, anchor_congr (leading_join base h)]

/-- The absolute form of a path with a name at its end has that name at its end. -/
theorem exists_pieces_whole {before : List String} {name : String} (directory : String)
    (hpieces : pieces path = before ++ [name]) (hname : IsName name) :
    ∃ before', pieces (whole directory path) = before' ++ [name] := by
  rw [whole, solid_of_pieces hpieces hname.not_idle, List.foldl_append]
  exact exists_pieces_join _ hname

theorem isAbsolute_whole (hdirectory : isAbsolute directory = true) (path : String) :
    isAbsolute (whole directory path) = true := by
  refine isAbsolute_foldl_join ?_ _
  rw [anchor]
  split
  · exact hdirectory
  · rfl
  · rfl

theorem whole_of_isAbsolute (h : isAbsolute path = true) (directory other : String) :
    whole directory path = whole other path := by
  rw [whole, whole, anchor_eq, anchor_eq, h]
  rfl

section

variable {names : List String}

/-- Solid pieces behind a base stand behind its own. -/
theorem solid_foldl_join (base : String) (h : ∀ n ∈ names, IsSolid n) :
    solid (names.foldl join base) = solid base ++ names := by
  induction names generalizing base with
  | nil => exact (List.append_nil _).symm
  | cons name rest ih =>
    obtain ⟨hname, hrest⟩ := List.forall_mem_cons.1 h
    rw [List.foldl_cons, ih _ hrest, solid_join base hname.isAbsolute_eq_false, hname.solid_eq,
      List.append_assoc, List.singleton_append]

theorem leading_foldl_join (base : String) (h : ∀ n ∈ names, IsSolid n) :
    leading (names.foldl join base) = leading base := by
  induction names generalizing base with
  | nil => rfl
  | cons name rest ih =>
    obtain ⟨hname, hrest⟩ := List.forall_mem_cons.1 h
    rw [List.foldl_cons, ih _ hrest, leading_join base hname.isAbsolute_eq_false]

/-- Behind a base that does not end in a slash, solid pieces stand between slashes. -/
theorem foldl_join_of_not_endsInSlash (hbase : base ≠ "") (hslash : endsInSlash base = false)
    (h : ∀ n ∈ names, IsSolid n) (hnames : names ≠ []) :
    names.foldl join base = base ++ "/" ++ "/".intercalate names := by
  induction names generalizing base with
  | nil => exact absurd rfl hnames
  | cons name rest ih =>
    obtain ⟨hname, hrest⟩ := List.forall_mem_cons.1 h
    have hjoin : join base name = base ++ "/" ++ name := by
      rw [join_of_relative hname.isAbsolute_eq_false, if_neg (by simp [hbase, hslash])]
    rw [List.foldl_cons, hjoin]
    by_cases hnil : rest = []
    · rw [hnil, String.intercalate_singleton]
      rfl
    · rw [ih (fun hempty => hbase (String.append_eq_empty_iff.1
          (String.append_eq_empty_iff.1 hempty).1).1) (hname.endsInSlash_append _) hrest hnil,
        String.intercalate_cons_of_ne_nil hnil]
      simp only [String.append_assoc]

/-- The root with solid pieces. -/
theorem foldl_join_root (h : ∀ n ∈ names, IsSolid n) :
    names.foldl join "/" = "/" ++ "/".intercalate names := by
  cases names with
  | nil => rfl
  | cons name rest =>
    obtain ⟨hname, hrest⟩ := List.forall_mem_cons.1 h
    have hjoin : join "/" name = "/" ++ name := by
      rw [join_of_relative hname.isAbsolute_eq_false, if_pos (by rfl)]
    rw [List.foldl_cons, hjoin]
    by_cases hnil : rest = []
    · rw [hnil, String.intercalate_singleton]
      rfl
    · rw [foldl_join_of_not_endsInSlash (fun hempty =>
          hname.ne_empty (String.append_eq_empty_iff.1 hempty).2) (hname.endsInSlash_append _) hrest
          hnil, String.intercalate_cons_of_ne_nil hnil]
      simp only [String.append_assoc]

end

/-! ### Directories -/

theorem ofPieces_pieces (path : String) : ofPieces (pieces path) = path := by
  rw [ofPieces, pieces, ← String.toList_inj, String.toList_intercalate, List.map_map]
  simp only [Function.comp_def, String.toList_ofList, List.map_id', splitSlashes_eq_splitOn]
  exact List.intercalate_splitOn '/'

theorem pieces_ofPieces {ps : List String} (hps : ps ≠ []) (h : ∀ p ∈ ps, '/' ∉ p.toList) :
    pieces (ofPieces ps) = ps := by
  rw [ofPieces, pieces, String.toList_intercalate, splitSlashes_eq_splitOn,
    show "/".toList = ['/'] from rfl, List.splitOn_intercalate '/' ?_ (by simpa using hps),
    List.map_map]
  · simp only [Function.comp_def, String.ofList_toList, List.map_id']
  · intro s hs
    obtain ⟨p, hp, rfl⟩ := List.mem_map.1 hs
    exact h p hp

theorem mem_ofPieces {ps : List String} {p : String} {c : Char} (hp : p ∈ ps) (hc : c ∈ p.toList) :
    c ∈ (ofPieces ps).toList := by
  obtain ⟨before, after, rfl⟩ := List.append_of_mem hp
  have hmem : c ∈ (ofPieces (p :: after)).toList := by
    by_cases hafter : after = []
    · rwa [hafter, ofPieces, String.intercalate_singleton]
    · rw [ofPieces, String.intercalate_cons_of_ne_nil hafter, String.toList_append,
        String.toList_append]
      exact List.mem_append_left _ (List.mem_append_left _ hc)
  by_cases hbefore : before = []
  · rwa [hbefore]
  · rw [ofPieces, String.intercalate_append_of_ne_nil hbefore (List.cons_ne_nil p after),
      String.toList_append]
    exact List.mem_append_right _ hmem

/-- Only the pieces behind the first are dropped, and only to the last that means something. -/
theorem exists_dropIdleEnd_eq (first : String) (others : List String) :
    ∃ rest idles, others = rest ++ idles ∧ dropIdleEnd (first :: others) = first :: rest ∧
      (∀ p ∈ idles, isIdle p = true) ∧ ∀ p, rest.getLast? = some p → isIdle p = false := by
  refine ⟨(others.reverse.dropWhile isIdle).reverse, (others.reverse.takeWhile isIdle).reverse,
    ?_, rfl, ?_, ?_⟩
  · rw [← List.reverse_append, List.takeWhile_append_dropWhile, List.reverse_reverse]
  · intro p hp
    exact List.mem_takeWhile_imp (List.mem_reverse.1 hp)
  · intro p hp
    rw [List.getLast?_reverse] at hp
    have hnot := List.head?_dropWhile_not isIdle others.reverse
    rw [hp] at hnot
    simpa using hnot

theorem dropIdleEnd_concat (before : List String) {last : String} (h : isIdle last = false) :
    dropIdleEnd (before ++ [last]) = before ++ [last] := by
  cases before with
  | nil => rfl
  | cons first rest =>
    rw [List.cons_append, dropIdleEnd, List.reverse_append, List.reverse_singleton,
      List.singleton_append, List.dropWhile_cons, if_neg (by rw [h]; exact Bool.false_ne_true),
      List.reverse_cons, List.reverse_reverse]

/-- The directory of a path whose last piece means something is at the pieces before that. -/
theorem parent?_eq {before : List String} {last : String} (hpieces : pieces path = before ++ [last])
    (hlast : isIdle last = false) : parent? path = some (match dropIdleEnd before with
      | [""] => "/"
      | ps => ofPieces ps) := by
  have hne : last ≠ "" := by
    rintro rfl
    cases hlast
  rw [parent?, splitLast?, hpieces, dropIdleEnd_concat before hlast, List.getLast?_concat,
    List.dropLast_concat]
  dsimp only
  rw [if_neg hne]
  rfl

/-- Pieces of which one is not empty begin with as many slashes, whatever follows them. -/
theorem leading_ofPieces_append {ps : List String} {p : String} (hp : p ∈ ps) (hne : p ≠ "")
    (hslash : '/' ∉ p.toList) (t : String) :
    leading (ofPieces ps ++ t) = leading (ofPieces ps) := by
  obtain ⟨c, hc⟩ := List.exists_mem_of_ne_nil p.toList (mt String.toList_eq_nil_iff.1 hne)
  exact leading_append_of_mem (mem_ofPieces hp hc) (fun h => hslash (h ▸ hc)) t

/-- Pieces without idle ones at their end are the root alone, or one of them is not empty: it is the
only one, or it means something. -/
theorem exists_mem_ne_empty {first : String} {rest : List String}
    (hrest : ∀ p, rest.getLast? = some p → isIdle p = false) (hroot : first :: rest ≠ [""]) :
    ∃ p ∈ first :: rest, p ≠ "" ∧ (rest = [] ∨ isIdle p = false) := by
  by_cases hnil : rest = []
  · refine ⟨first, List.mem_cons_self, ?_, .inl hnil⟩
    rintro rfl
    exact hroot (by rw [hnil])
  · have hend := hrest _ (List.getLast?_eq_some_getLast hnil)
    refine ⟨rest.getLast hnil, List.mem_cons_of_mem _ (List.getLast_mem hnil), ?_, .inr hend⟩
    intro hempty
    rw [hempty] at hend
    cases hend

/-- The directory of a path has the solid pieces before the last.  It begins as the path does, or
is the root. -/
theorem exists_parent {before : List String} {last : String}
    (hpieces : pieces path = before ++ [last]) (hlast : isIdle last = false) :
    ∃ base, parent? path = some base ∧ solid base = (solid path).dropLast ∧
      (leading base = leading path ∧ (leading base = 2 → solid base ≠ []) ∨
        base = "/" ∧ isAbsolute path = true) := by
  refine ⟨_, parent?_eq hpieces hlast, ?_⟩
  have hpath : path = ofPieces (before ++ [last]) := by rw [← hpieces, ofPieces_pieces]
  have hmem : ∀ p ∈ before ++ [last], '/' ∉ p.toList := by
    rw [← hpieces]
    exact fun p => slash_not_mem_of_mem_pieces
  rw [solid_of_pieces hpieces hlast, List.dropLast_concat]
  cases before with
  | nil =>
    have hleading : leading path = 0 := by
      rw [hpath, List.nil_append, ofPieces, String.intercalate_singleton]
      exact leading_eq_zero_of_not_mem (hmem last List.mem_cons_self)
    exact ⟨rfl, .inl ⟨hleading.symm, nofun⟩⟩
  | cons first others =>
    obtain ⟨rest, idles, rfl, hdrop, hidles, hrest⟩ := exists_dropIdleEnd_eq first others
    have hslashes : ∀ p ∈ first :: rest, '/' ∉ p.toList := fun p hp =>
      hmem p (by
        rw [← List.cons_append]
        exact List.mem_append_left _ (List.mem_append_left _ hp))
    have hfilter : (first :: (rest ++ idles)).filter (!isIdle ·) =
        (first :: rest).filter (!isIdle ·) := by
      have hidle : idles.filter (!isIdle ·) = [] :=
        List.filter_eq_nil_iff.2 fun p hp => by simp [hidles p hp]
      rw [← List.cons_append, List.filter_append, hidle, List.append_nil]
    have happend : path = ofPieces (first :: rest) ++ ("/" ++ ofPieces (idles ++ [last])) := by
      rw [hpath, List.cons_append, List.append_assoc, ← List.cons_append, ofPieces, ofPieces,
        ofPieces, String.intercalate_append_of_ne_nil (List.cons_ne_nil _ _) (by simp),
        String.append_assoc]
    rw [hdrop, hfilter]
    split
    · rename_i hroot
      cases hroot
      refine ⟨rfl, .inr ⟨rfl, ?_⟩⟩
      rw [happend, show ofPieces [""] = "" from rfl, String.empty_append]
      exact isAbsolute_append (by decide) _
    · rename_i hroot
      obtain ⟨p, hp, hne, hsolid⟩ := exists_mem_ne_empty hrest hroot
      have hbase : solid (ofPieces (first :: rest)) = (first :: rest).filter (!isIdle ·) := by
        rw [solid, pieces_ofPieces (List.cons_ne_nil _ _) hslashes]
      refine ⟨hbase, .inl ⟨?_, fun htwo hnil => ?_⟩⟩
      · rw [happend, leading_ofPieces_append hp hne (hslashes p hp)]
      · rcases hsolid with rfl | hidle
        · -- The directory is one piece, so it does not begin with a slash.
          rw [ofPieces, String.intercalate_singleton,
            leading_eq_zero_of_not_mem (hslashes first List.mem_cons_self)] at htwo
          cases htwo
        · rw [hbase, List.filter_eq_nil_iff] at hnil
          exact hnil p hp (by rw [hidle]; rfl)

/-- Solid pieces behind an anchor, as the directory of a path; two slashes alone are the root. -/
def above (anchor : String) (names : List String) : String :=
  if anchor = "//" ∧ names = [] then "/" else names.foldl join anchor

theorem anchor_eq_slashes_iff (hdirectory : directory ≠ "//") :
    anchor directory path = "//" ↔ leading path = 2 := by
  rw [anchor]
  split <;> simp_all

/-- The absolute form of the directory of a path. -/
theorem whole_parent {before : List String} {last : String} (hdirectory : directory ≠ "//")
    (hpieces : pieces path = before ++ [last]) (hlast : isIdle last = false) :
    ∃ base, parent? path = some base ∧
      whole directory base = above (anchor directory path) (solid path).dropLast := by
  obtain ⟨base, hparent, hsolid, ⟨hleading, hnonempty⟩ | ⟨rfl, habsolute⟩⟩ :=
    exists_parent hpieces hlast
  · refine ⟨base, hparent, ?_⟩
    rw [above, if_neg, whole, hsolid, anchor_congr hleading]
    rintro ⟨hanchor, hnil⟩
    rw [anchor_eq_slashes_iff hdirectory, ← hleading] at hanchor
    exact hnonempty hanchor (hsolid.trans hnil)
  · refine ⟨"/", hparent, ?_⟩
    rw [← hsolid]
    rcases anchor_of_isAbsolute directory habsolute with hanchor | hanchor
    · rw [hanchor]
      rfl
    · rw [hanchor]
      rfl

/-! ### Plain directories -/

/-- A directory that is its own absolute form, and begins with one slash. -/
structure IsPlain (directory : String) : Prop where
  leading_eq : leading directory = 1
  foldl_eq : (solid directory).foldl join "/" = directory

/-- The path of some solid pieces from the root. -/
theorem isPlain_root {names : List String} (h : ∀ n ∈ names, IsSolid n) :
    IsPlain ("/" ++ "/".intercalate names) := by
  rw [← foldl_join_root h]
  constructor
  · rw [leading_foldl_join "/" h]
    rfl
  · rw [solid_foldl_join "/" h]
    rfl

theorem IsPlain.ne_slashes (h : IsPlain directory) : directory ≠ "//" := by
  rintro rfl
  cases h.leading_eq

theorem IsPlain.isAbsolute (h : IsPlain directory) : isAbsolute directory = true := by
  rw [← Bool.not_eq_false, ← leading_eq_zero_iff, h.leading_eq]
  decide

/-- An anchor is the directory of pieces as its own absolute form is. -/
theorem above_anchor (h : IsPlain directory) (path : String) (names : List String) :
    above (anchor directory (anchor directory path)) (solid (anchor directory path) ++ names) =
      above (anchor directory path) names := by
  by_cases hpath : Path.isAbsolute path = true
  · rcases anchor_of_isAbsolute directory hpath with hanchor | hanchor
    · rw [hanchor]
      rfl
    · rw [hanchor]
      rfl
  · rw [anchor_of_relative (Bool.eq_false_iff.2 hpath)]
    have hdirectory : anchor directory directory = "/" := by
      rw [anchor, h.leading_eq]
      rfl
    rw [hdirectory, above, above, if_neg (by simp), if_neg (by simp [h.ne_slashes]),
      List.foldl_append, h.foldl_eq]

/-- **A path and its absolute form have one directory**: the absolute forms of the two are the
same. -/
theorem whole_parent_whole {before : List String} {name : String} (hdirectory : IsPlain directory)
    (hpieces : pieces path = before ++ [name]) (hname : IsName name) :
    ∃ base base', parent? path = some base ∧ parent? (whole directory path) = some base' ∧
      whole directory base' = whole directory base := by
  obtain ⟨base, hparent, hbase⟩ :=
    whole_parent hdirectory.ne_slashes hpieces hname.not_idle
  have hsolid := solid_of_pieces hpieces hname.not_idle
  have hmem : ∀ n ∈ solid path, IsSolid n := fun n => isSolid_of_mem_solid
  obtain ⟨before', hpieces'⟩ := exists_pieces_whole directory hpieces hname
  obtain ⟨base', hparent', hbase'⟩ :=
    whole_parent hdirectory.ne_slashes hpieces' hname.not_idle
  refine ⟨base, base', hparent, hparent', ?_⟩
  have hwhole : solid (whole directory path) = solid (anchor directory path) ++ solid path :=
    solid_foldl_join _ hmem
  have hanchor : anchor directory (whole directory path) =
      anchor directory (anchor directory path) :=
    anchor_congr (leading_foldl_join _ hmem)
  rw [hbase', hbase, hanchor, hwhole, hsolid, ← List.append_assoc, List.dropLast_concat,
    List.dropLast_concat, above_anchor hdirectory]

/-! ### Names at the end -/

theorem endsInSlash_of_pieces {before : List String} {name : String}
    (hpieces : pieces path = before ++ [name]) (hname : IsName name) :
    endsInSlash path = false := by
  rw [← ofPieces_pieces path, hpieces, ofPieces]
  by_cases hbefore : before = []
  · have hempty := hname.isSolid.endsInSlash_append ""
    rw [String.empty_append] at hempty
    rwa [hbefore, List.nil_append, String.intercalate_singleton]
  · rw [String.intercalate_append_of_ne_nil hbefore (List.cons_ne_nil _ _),
      String.intercalate_singleton]
    exact hname.isSolid.endsInSlash_append _

/-- The absolute form of a path with a name at its end has no slash there. -/
theorem absolute?_of_pieces {before : List String} {name : String} (directory : String)
    (hpieces : pieces path = before ++ [name]) (hname : IsName name) :
    absolute? directory path = some (whole directory path) := by
  have hpath : path ≠ "" := by
    rintro rfl
    have hempty : [] ++ [""] = before ++ [name] := hpieces
    exact hname.ne_empty (List.singleton_inj.1 (List.append_inj' hempty rfl).2).symm
  rw [absolute?_eq, if_neg hpath,
    if_neg (by rw [endsInSlash_of_pieces hpieces hname]; exact Bool.false_ne_true)]

theorem endsInSlash_join {name : String} (base : String) (hname : IsName name) :
    endsInSlash (join base name) = false := by
  rw [join_of_relative hname.isAbsolute_eq_false]
  split
  · exact hname.isSolid.endsInSlash_append _
  · exact hname.isSolid.endsInSlash_append _

/-- The absolute form of a name under a base is that name under the absolute form of the base. -/
theorem absolute?_join {name : String} (directory base : String) (hname : IsName name) :
    absolute? directory (join base name) = some (join (whole directory base) name) := by
  rw [absolute?_eq, if_neg (join_ne_empty base hname.ne_empty),
    if_neg (by rw [endsInSlash_join base hname]; exact Bool.false_ne_true),
    whole_join directory base hname.isAbsolute_eq_false, hname.isSolid.solid_eq]
  rfl

end MockServer.Path
