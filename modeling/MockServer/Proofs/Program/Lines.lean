/-
The lines of a main file.

Three lines of a main file carry authored text behind a mark, the lines of the routes
carry it behind another, and all other lines are the same in every file: they are *fixed*.
No authored text holds a line end where it is spliced in, so it stays on its own line
whatever it is.  Main statements:

* `linesOf_join`, `linesOf_join_eq_iff` — lines are told apart again if and only if no line
  end stands in them;
* `linesOf_ofTable` — the lines of the main file of a table;
* `ofTable_line_structure` — what each line is, whatever the table and the name.
-/
import Mathlib.Algebra.GroupWithZero.Nat
import MockServer.Program.Basic
import MockServer.Proofs.Program.Interpreted
import MockServer.Proofs.RouteTable.FirstSeen

namespace MockServer.Program

/-! ### Lines of a text -/

/-- The lines of a text, split at its line ends. -/
def linesOf (text : String) : List String :=
  (text.toList.splitOn '\n').map String.ofList

/-- A line that begins with a mark. -/
def Begins (mark line : String) : Prop :=
  mark.toList <+: line.toList

instance (mark line : String) : Decidable (Begins mark line) :=
  inferInstanceAs (Decidable (_ <+: _))

theorem begins_append (mark rest : String) : Begins mark (mark ++ rest) := by
  rw [Begins, String.toList_append]
  exact List.prefix_append _ _

/-- The number of line ends in a text. -/
def lineEnds (text : String) : Nat :=
  text.toList.count '\n'

@[simp] theorem lineEnds_append (s t : String) : lineEnds (s ++ t) = lineEnds s + lineEnds t := by
  rw [lineEnds, String.toList_append, List.count_append, lineEnds, lineEnds]

theorem lineEnds_eq_zero_iff {text : String} : lineEnds text = 0 ↔ '\n' ∉ text.toList := by
  rw [lineEnds, List.count_eq_zero]

theorem length_splitOn (s : List Char) : (s.splitOn '\n').length = s.count '\n' + 1 := by
  induction s with
  | nil => rfl
  | cons c s ih =>
    rw [List.splitOn_cons_eq_if_modifyHead, List.count_cons]
    split
    · rw [List.length_cons, ih]
    · rw [List.length_modifyHead, ih, Nat.add_zero]

/-- A text has one line more than line ends. -/
theorem length_linesOf (text : String) : (linesOf text).length = lineEnds text + 1 := by
  rw [linesOf, List.length_map, length_splitOn, lineEnds]

/-- Texts behind each of which a line ends have their lines one after the other, and behind the
last line end stands an empty line. -/
theorem linesOf_join_flatMap (texts : List String) :
    linesOf (String.join (texts.map (· ++ "\n"))) = texts.flatMap linesOf ++ [""] := by
  induction texts with
  | nil => rfl
  | cons text rest ih =>
    have hends : "\n".toList = ['\n'] := rfl
    rw [linesOf] at ih
    rw [linesOf, List.map_cons, String.join_cons, String.toList_append, String.toList_append, hends,
      List.append_assoc, List.singleton_append, List.splitOn_append_cons_self, List.map_append, ih,
      List.flatMap_cons, List.append_assoc]
    rfl

/-- How many lines texts have behind each of which a line ends. -/
theorem length_linesOf_join (texts : List String) :
    (linesOf (String.join (texts.map (· ++ "\n")))).length =
      texts.length + (texts.map lineEnds).sum + 1 := by
  rw [linesOf_join_flatMap, List.length_append, List.length_flatMap, List.length_singleton]
  induction texts with
  | nil => rfl
  | cons text rest ih =>
    simp only [List.map_cons, List.sum_cons, length_linesOf, List.length_cons] at ih ⊢
    omega

/-- Lines without line ends are told apart again; behind the last line end stands an empty
line. -/
theorem linesOf_join {lines : List String} (h : ∀ line ∈ lines, '\n' ∉ line.toList) :
    linesOf (String.join (lines.map (· ++ "\n"))) = lines ++ [""] := by
  have hlines : ∀ line ∈ lines, linesOf line = [line] := by
    intro line hl
    rw [linesOf, List.splitOn_eq_singleton (h line hl), List.map_singleton, String.ofList_toList]
  rw [linesOf_join_flatMap, List.flatMap_congr hlines]
  simp

/-- Only lines without line ends are told apart again. -/
theorem linesOf_join_eq_iff {lines : List String} :
    linesOf (String.join (lines.map (· ++ "\n"))) = lines ++ [""] ↔
      ∀ line ∈ lines, lineEnds line = 0 := by
  constructor
  · intro h
    have hlength := congrArg List.length h
    rw [length_linesOf_join, List.length_append, List.length_singleton] at hlength
    have hsum : (lines.map lineEnds).sum = 0 := by omega
    exact List.forall_mem_map.1 (List.sum_eq_zero_iff_forall_eq_nat.1 hsum)
  · exact fun h => linesOf_join fun line hl => lineEnds_eq_zero_iff.1 (h line hl)

/-- A line of plain characters and tabs. -/
def IsText (line : String) : Prop :=
  ∀ c ∈ line.toList, IsPlain c ∨ c = '\t'

theorem isText_append {s t : String} (hs : IsText s) (ht : IsText t) : IsText (s ++ t) := by
  intro c hc
  rw [String.toList_append, List.mem_append] at hc
  exact hc.elim (hs c) (ht c)

theorem isText_literal (s : String) : IsText (literal s) :=
  fun _ hc => .inl (isPlain_of_mem_literal hc)

theorem isText_ofList {s : List Char} (h : s.all (fun c => IsPlain c ∨ c = '\t') = true) :
    IsText (String.ofList s) := by
  intro c hc
  rw [String.toList_ofList] at hc
  exact of_decide_eq_true (List.all_eq_true.1 h c hc)

theorem lineEnd_not_mem {line : String} (h : IsText line) : '\n' ∉ line.toList :=
  fun hc => absurd (h '\n' hc) (by decide)

/-- A method on a comment line is plain, be it bare or quoted. -/
theorem isText_methodText (method : String) : IsText (methodText method) := by
  rw [methodText]
  split
  · rename_i h
    intro c hc
    have hg := List.all_eq_true.1 h.2 c hc
    simp only [Text.isAsciiGraphic, Bool.and_eq_true, decide_eq_true_eq] at hg
    left
    unfold IsPlain
    omega
  · exact isText_literal method

/-! ### Marks and fixed lines -/

/-- What the line of the name in the heading begins with. -/
def projectMark : String := "// Project: "

/-- What the line of the name's constant begins with. -/
def nameMark : String := "const projectName = "

/-- What the line of the table's constant begins with. -/
def tableMark : String := "const routeTable = "

/-- What the line of a route begins with. -/
def routeMark : String := "//   "

/-- The marks of the lines that vary from file to file. -/
def marks : List String :=
  [projectMark, nameMark, tableMark, routeMark]

/-- The mark of a line, told from its first characters. -/
def mark? : List Char → Option String
  | '/' :: '/' :: ' ' :: 'P' :: _ => some projectMark
  | '/' :: '/' :: ' ' :: ' ' :: _ => some routeMark
  | 'c' :: 'o' :: 'n' :: 's' :: 't' :: ' ' :: 'p' :: _ => some nameMark
  | 'c' :: 'o' :: 'n' :: 's' :: 't' :: ' ' :: 'r' :: _ => some tableMark
  | _ => none

theorem mark?_of_begins {mark line : String} (hm : mark ∈ marks) (h : Begins mark line) :
    mark? line.toList = some mark := by
  obtain ⟨rest, hrest⟩ := h
  rw [← hrest]
  simp only [marks, List.mem_cons, List.not_mem_nil, or_false] at hm
  rcases hm with rfl | rfl | rfl | rfl <;> rfl

/-- A marked line has no other mark. -/
theorem begins_append_iff {mark mark' rest : String} (hm : mark ∈ marks) (hm' : mark' ∈ marks) :
    Begins mark' (mark ++ rest) ↔ mark = mark' := by
  constructor
  · intro h
    have := mark?_of_begins hm' h
    rwa [mark?_of_begins hm (begins_append mark rest), Option.some.injEq] at this
  · rintro rfl
    exact begins_append mark rest

/-- A line that is the same in all files: of plain characters, and without a mark. -/
structure IsFixed (line : String) : Prop where
  text : IsText line
  unmarked : mark? line.toList = none

theorem isFixed_ofList {s : List Char} (ht : s.all (fun c => IsPlain c ∨ c = '\t') = true)
    (hm : mark? s = none) : IsFixed (String.ofList s) :=
  ⟨isText_ofList ht, by rwa [String.toList_ofList]⟩

theorem not_begins_of_isFixed {mark line : String} (hm : mark ∈ marks) (h : IsFixed line) :
    ¬ Begins mark line := by
  intro hb
  have := mark?_of_begins hm hb
  rw [h.unmarked] at this
  cases this

/-- The lines that begin with a mark. -/
def marked (mark : String) (lines : List String) : List String :=
  lines.filter (Begins mark ·)

/-- The lines that begin with no mark. -/
def unmarked (lines : List String) : List String :=
  lines.filter fun line => ∀ mark ∈ marks, ¬ Begins mark line

section

variable {mark mark' : String} {lines lines' : List String}

@[simp] theorem marked_append :
    marked mark (lines ++ lines') = marked mark lines ++ marked mark lines' :=
  List.filter_append ..

@[simp] theorem unmarked_append : unmarked (lines ++ lines') = unmarked lines ++ unmarked lines' :=
  List.filter_append ..

theorem marked_of_isFixed (hm : mark ∈ marks) (h : ∀ line ∈ lines, IsFixed line) :
    marked mark lines = [] :=
  List.filter_eq_nil_iff.2 fun line hl => by
    simpa using not_begins_of_isFixed hm (h line hl)

theorem unmarked_of_isFixed (h : ∀ line ∈ lines, IsFixed line) : unmarked lines = lines :=
  List.filter_eq_self.2 fun line hl => by
    simpa using fun mark hm => not_begins_of_isFixed hm (h line hl)

theorem marked_map (hm : mark ∈ marks) (hm' : mark' ∈ marks) (rests : List String) :
    marked mark' (rests.map (mark ++ ·)) = if mark = mark' then rests.map (mark ++ ·) else [] := by
  rw [marked]
  split
  · rename_i h
    refine List.filter_eq_self.2 fun line hl => ?_
    obtain ⟨rest, -, rfl⟩ := List.mem_map.1 hl
    simpa using (begins_append_iff hm hm').2 h
  · rename_i h
    refine List.filter_eq_nil_iff.2 fun line hl => ?_
    obtain ⟨rest, -, rfl⟩ := List.mem_map.1 hl
    simpa using fun hb => h ((begins_append_iff hm hm').1 hb)

theorem unmarked_map (hm : mark ∈ marks) (rests : List String) :
    unmarked (rests.map (mark ++ ·)) = [] := by
  refine List.filter_eq_nil_iff.2 fun line hl hn => ?_
  obtain ⟨rest, -, rfl⟩ := List.mem_map.1 hl
  exact of_decide_eq_true hn mark hm (begins_append mark rest)

end

/-! ### The lines of a main file -/

/-- The fixed lines in front of the name. -/
def openingLines : List String :=
  ["// Code generated by mocksmith. DO NOT EDIT.", "//"]

/-- The fixed lines in front of the routes. -/
def listingLines : List String :=
  ["//", "// Routes:"]

/-- The fixed lines between the constants of the name and of the table. -/
def settingLines : List String :=
  ["",
    "const defaultPort = " ++ String.ofList (Number.digits defaultPort),
    "",
    "const allowedMethods = " ++ literal allowedMethods,
    "",
    "// routeTable is the compiled route table: one entry per path, one endpoint per method."]

/-- The lines behind the table; the last one is empty. -/
def closingLines : List String :=
  sharedLines ++ [""]

theorem isFixed_openingLines : ∀ line ∈ openingLines, IsFixed line := by
  simp only [openingLines, List.forall_mem_cons, List.not_mem_nil, false_imp_iff, implies_true,
    and_true]
  and_intros <;> exact isFixed_ofList (by decide) rfl

theorem isFixed_listingLines : ∀ line ∈ listingLines, IsFixed line := by
  simp only [listingLines, List.forall_mem_cons, List.not_mem_nil, false_imp_iff, implies_true,
    and_true]
  and_intros <;> exact isFixed_ofList (by decide) rfl

theorem isFixed_importLines : ∀ line ∈ importLines, IsFixed line := by
  simp only [importLines, List.forall_mem_cons, List.not_mem_nil, false_imp_iff, implies_true,
    and_true]
  and_intros <;> exact isFixed_ofList (by decide) rfl

theorem isFixed_settingLines : ∀ line ∈ settingLines, IsFixed line := by
  have hport : IsText (String.ofList (Number.digits defaultPort)) := isText_ofList (by decide)
  have hempty : IsFixed "" := isFixed_ofList (by decide) rfl
  simp only [settingLines, List.forall_mem_cons, List.not_mem_nil, false_imp_iff, implies_true,
    and_true]
  refine ⟨hempty, ⟨isText_append (isText_ofList (by decide)) hport, ?_⟩, hempty,
    ⟨isText_append (isText_ofList (by decide)) (isText_literal _), ?_⟩, hempty,
    isFixed_ofList (by decide) rfl⟩
  · rw [String.toList_append]
    rfl
  · rw [String.toList_append]
    rfl

theorem isFixed_closingLines : ∀ line ∈ closingLines, IsFixed line := by
  simp only [closingLines, sharedLines, endpointType, groupType, portFunction,
    crossOriginFunction, handlerFunction, mainFunction, List.forall_mem_append,
    List.forall_mem_cons, List.not_mem_nil, false_imp_iff, implies_true, and_true]
  and_intros <;> exact isFixed_ofList (by decide) rfl

/-- What stands behind the mark of a route. -/
def routeRest (route : String × String) : String :=
  methodText route.1 ++ " " ++ literal route.2

theorem text_routes (table : RouteTable) (name : String) :
    (mainFileOf table name).routes.map RouteLine.text =
      (table.routes.map routeRest).map (routeMark ++ ·) := by
  have hline : ∀ group : RouteGroup, (groupRoutes group).map RouteLine.text =
      ((group.methodNames.map (·, group.path)).map routeRest).map (routeMark ++ ·) := by
    intro group
    rw [groupRoutes, List.map_map, List.map_map, List.map_map]
    refine List.map_congr_left fun method _ => ?_
    simp only [Function.comp_apply, RouteLine.text, routeRest, routeMark, String.append_assoc]
  rw [mainFileOf, RouteTable.routes, List.map_flatMap, List.map_flatMap, List.map_flatMap]
  simp only [hline]

/-- What stands behind the mark of the name, both times. -/
def nameRest (name : String) : String :=
  literal (Project.displayName name)

/-- What stands behind the mark of the table. -/
def tableRest (table : RouteTable) : String :=
  literal (Served.tableToJson table).text

/-- The lines of a table's main file, the fixed ones in blocks between the others. -/
def fileLines (table : RouteTable) (name : String) : List String :=
  openingLines ++ [nameRest name].map (projectMark ++ ·) ++ listingLines
    ++ (table.routes.map routeRest).map (routeMark ++ ·) ++ importLines
    ++ [nameRest name].map (nameMark ++ ·) ++ settingLines
    ++ [tableRest table].map (tableMark ++ ·) ++ closingLines

theorem isText_fileLines (table : RouteTable) (name : String) :
    ∀ line ∈ fileLines table name, IsText line := by
  have hmark : ∀ mark ∈ marks, IsText mark := by
    simp only [marks, List.forall_mem_cons, List.not_mem_nil, false_imp_iff, implies_true,
      and_true]
    and_intros <;> exact isText_ofList (by decide)
  have hmap : ∀ mark ∈ marks, ∀ rests : List String, (∀ rest ∈ rests, IsText rest) →
      ∀ line ∈ rests.map (mark ++ ·), IsText line := by
    intro mark hm rests hrests line hl
    obtain ⟨rest, hr, rfl⟩ := List.mem_map.1 hl
    exact isText_append (hmark mark hm) (hrests rest hr)
  have hroute : ∀ rest ∈ table.routes.map routeRest, IsText rest := by
    intro rest hr
    obtain ⟨route, -, rfl⟩ := List.mem_map.1 hr
    exact isText_append (isText_append (isText_methodText _) (isText_ofList (by decide)))
      (isText_literal _)
  simp only [fileLines, List.forall_mem_append]
  refine ⟨⟨⟨⟨⟨⟨⟨⟨?_, ?_⟩, ?_⟩, ?_⟩, ?_⟩, ?_⟩, ?_⟩, ?_⟩, ?_⟩
  · exact fun line hl => (isFixed_openingLines line hl).text
  · exact hmap _ (by decide) _ (by simpa [nameRest] using isText_literal _)
  · exact fun line hl => (isFixed_listingLines line hl).text
  · exact hmap _ (by decide) _ hroute
  · exact fun line hl => (isFixed_importLines line hl).text
  · exact hmap _ (by decide) _ (by simpa [nameRest] using isText_literal _)
  · exact fun line hl => (isFixed_settingLines line hl).text
  · exact hmap _ (by decide) _ (by simpa [tableRest] using isText_literal _)
  · exact fun line hl => (isFixed_closingLines line hl).text

theorem lines_mainFileOf (table : RouteTable) (name : String) :
    (mainFileOf table name).lines ++ [""] = fileLines table name := by
  have hheading : (mainFileOf table name).headingLines =
      openingLines ++ [nameRest name].map (projectMark ++ ·) ++ listingLines := rfl
  have hconstants : (mainFileOf table name).constantLines =
      [nameRest name].map (nameMark ++ ·) ++ settingLines
        ++ [tableRest table].map (tableMark ++ ·) := rfl
  rw [MainFile.lines, text_routes, hheading, hconstants, fileLines, closingLines]
  simp only [List.append_assoc]

theorem isText_lines (table : RouteTable) (name : String) :
    ∀ line ∈ (mainFileOf table name).lines, IsText line := by
  intro line hl
  refine isText_fileLines table name line ?_
  rw [← lines_mainFileOf]
  exact List.mem_append_left _ hl

/-- The lines of the main file of a table. -/
theorem linesOf_ofTable (table : RouteTable) (name : String) :
    linesOf (ofTable table name).mainFile = fileLines table name := by
  rw [ofTable, MainFile.text, linesOf_join, lines_mainFileOf]
  exact fun line hl => lineEnd_not_mem (isText_lines table name line hl)

/-! ### What each line is -/

section

variable (table : RouteTable) (name : String)

/-- The lines with a mark are the ones that were written with it. -/
theorem marked_fileLines {mark : String} (hm : mark ∈ marks) :
    marked mark (fileLines table name) =
      (if projectMark = mark then [projectMark ++ nameRest name] else [])
        ++ (if routeMark = mark then (table.routes.map routeRest).map (routeMark ++ ·) else [])
        ++ (if nameMark = mark then [nameMark ++ nameRest name] else [])
        ++ (if tableMark = mark then [tableMark ++ tableRest table] else []) := by
  simp only [fileLines, marked_append, marked_of_isFixed hm isFixed_openingLines,
    marked_of_isFixed hm isFixed_listingLines, marked_of_isFixed hm isFixed_importLines,
    marked_of_isFixed hm isFixed_settingLines, marked_of_isFixed hm isFixed_closingLines]
  rw [marked_map (by decide) hm, marked_map (by decide) hm, marked_map (by decide) hm,
    marked_map (by decide) hm]
  simp only [List.nil_append, List.append_nil, List.map_cons, List.map_nil]

/-- The lines without a mark are the fixed ones. -/
theorem unmarked_fileLines :
    unmarked (fileLines table name) =
      openingLines ++ listingLines ++ importLines ++ settingLines ++ closingLines := by
  simp only [fileLines, unmarked_append, unmarked_of_isFixed isFixed_openingLines,
    unmarked_of_isFixed isFixed_listingLines, unmarked_of_isFixed isFixed_importLines,
    unmarked_of_isFixed isFixed_settingLines, unmarked_of_isFixed isFixed_closingLines]
  rw [unmarked_map (by decide), unmarked_map (by decide), unmarked_map (by decide),
    unmarked_map (by decide)]
  simp only [List.append_nil]

theorem toList_mainFile :
    (ofTable table name).mainFile.toList =
      ((mainFileOf table name).lines.map (· ++ "\n")).flatMap String.toList := by
  rw [ofTable, MainFile.text, String.toList_join]

/-- A main file holds plain characters, tabs and line ends only. -/
theorem isPlain_of_mem_mainFile {c : Char} (hc : c ∈ (ofTable table name).mainFile.toList) :
    IsPlain c ∨ c = '\n' ∨ c = '\t' := by
  have hends : "\n".toList = ['\n'] := rfl
  rw [toList_mainFile, List.mem_flatMap] at hc
  obtain ⟨ended, he, hc⟩ := hc
  obtain ⟨line, hl, rfl⟩ := List.mem_map.1 he
  rw [String.toList_append, List.mem_append, hends, List.mem_singleton] at hc
  exact hc.elim (fun h => (isText_lines table name line hl c h).imp_right .inr)
    fun h => .inr (.inl h)

end

/-- **The lines of a main file.**  Whatever the table and the name hold, the name stands on
one line of the heading and in one constant, the table in another, each as one literal; the
routes stand together behind their heading, one on each line, in the order of the table;
all other lines are the same in every file; and no character is a control or, but for the
line ends, ends a line. -/
theorem ofTable_line_structure :
    ∃ shared : List String, ∀ (table : RouteTable) (name : String),
      (∃ rest, marked projectMark (linesOf (ofTable table name).mainFile) = [projectMark ++ rest]
        ∧ IsQuoted rest.toList
        ∧ interpreted? rest.toList = some (Text.encode (Project.displayName name)))
      ∧ (∃ rest, marked nameMark (linesOf (ofTable table name).mainFile) = [nameMark ++ rest]
        ∧ IsQuoted rest.toList
        ∧ interpreted? rest.toList = some (Text.encode (Project.displayName name)))
      ∧ (∃ rest, marked tableMark (linesOf (ofTable table name).mainFile) = [tableMark ++ rest]
        ∧ IsQuoted rest.toList
        ∧ interpreted? rest.toList = some (Text.encode (Served.tableToJson table).text))
      ∧ (∃ before listed after,
        linesOf (ofTable table name).mainFile = before ++ "// Routes:" :: listed ++ after
        ∧ marked routeMark (linesOf (ofTable table name).mainFile) = listed
        ∧ listed = table.routes.map
            (fun route => "//   " ++ (methodText route.1 ++ " " ++ literal route.2))
        ∧ listed.length = table.routeCount)
      ∧ unmarked (linesOf (ofTable table name).mainFile) = shared
      ∧ ∀ c ∈ (ofTable table name).mainFile.toList, IsPlain c ∨ c = '\n' ∨ c = '\t' := by
  refine ⟨openingLines ++ listingLines ++ importLines ++ settingLines ++ closingLines,
    fun table name => ?_⟩
  rw [linesOf_ofTable]
  refine ⟨⟨nameRest name, ?_, isQuoted_literal _, interpreted?_literal _⟩,
    ⟨nameRest name, ?_, isQuoted_literal _, interpreted?_literal _⟩,
    ⟨tableRest table, ?_, isQuoted_literal _, interpreted?_literal _⟩,
    ⟨openingLines ++ [nameRest name].map (projectMark ++ ·) ++ ["//"],
      (table.routes.map routeRest).map (routeMark ++ ·),
      importLines ++ [nameRest name].map (nameMark ++ ·) ++ settingLines
        ++ [tableRest table].map (tableMark ++ ·) ++ closingLines, ?_, ?_, ?_, ?_⟩,
    unmarked_fileLines table name, fun c hc => isPlain_of_mem_mainFile table name hc⟩
  · rw [marked_fileLines table name (by decide), if_pos rfl, if_neg (by decide),
      if_neg (by decide), if_neg (by decide)]
    rfl
  · rw [marked_fileLines table name (by decide), if_neg (by decide), if_neg (by decide),
      if_pos rfl, if_neg (by decide)]
    rfl
  · rw [marked_fileLines table name (by decide), if_neg (by decide), if_neg (by decide),
      if_neg (by decide), if_pos rfl]
    rfl
  · rw [fileLines, listingLines]
    simp only [List.append_assoc, List.cons_append, List.nil_append]
  · rw [marked_fileLines table name (by decide), if_neg (by decide), if_pos rfl,
      if_neg (by decide), if_neg (by decide)]
    simp only [List.nil_append, List.append_nil]
  · rw [List.map_map]
    rfl
  · rw [List.length_map, List.length_map, RouteTable.length_routes]

end MockServer.Program
