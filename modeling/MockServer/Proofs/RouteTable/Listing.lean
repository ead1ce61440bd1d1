/-
The rows of a listing.

A listing has one row for the heading, one for each path and each route, and one for each
refused endpoint.  The rows of the routes show what the program serves.  Authored texts stand
in the rows as they were authored, so a line end in one of them breaks its row: every row is one
line if and only if no authored text in it holds a line end.  Main statements:

* `listing_eq_join` — a listing is its rows, one after the other;
* `length_rows` — how many rows there are;
* `lineEnds_text` — only authored texts bring line ends into a row;
* `groupToJson_eq` — the rows of a group show what the program holds for it;
* `listing_rows` — the rows of a listing, and when they are its lines.
-/
import MockServer.Proofs.Number.Numeral
import MockServer.Proofs.Program.Lines
import MockServer.RouteTable.Listing

namespace MockServer.RouteTable

open Program

/-! ### Rows -/

/-- A row of a listing. -/
inductive Row where
  | heading (name : String) (routes paths : Nat)
  | path (p : String)
  | route (method : String) (served : Served) (description : String)
  | refusal (r : Refusal)

namespace Row

/-- What a row says of a delay. -/
def delayNote : Option Delay → String
  | some d => " (delay " ++ numeral d.milliseconds ++ "ms)"
  | none => ""

/-- What a row says of a description. -/
def descriptionNote (description : String) : String :=
  if description = "" then "" else "  # " ++ description

/-- The text of the heading. -/
def headingText (name : String) (routes paths : Nat) : String :=
  "📋 " ++ name ++ ": " ++ numeral routes ++ " routes in " ++ numeral paths ++ " paths"

/-- The text of a route. -/
def routeText (method : String) (served : Served) (description : String) : String :=
  "  " ++ padded 7 method ++ " " ++ numeral served.status.code ++ " " ++ served.contentType
    ++ delayNote served.delay ++ descriptionNote description

/-- The text of a refused endpoint. -/
def refusalText (r : Refusal) : String :=
  "⚠️  refused " ++ r.method ++ " " ++ r.path ++ ": " ++ r.fault.message

/-- The text of a row. -/
def text : Row → String
  | .heading name routes paths => headingText name routes paths
  | .path p => p
  | .route method served description => routeText method served description
  | .refusal r => refusalText r

/-- The authored texts in a row. -/
def authored : Row → List String
  | .heading name _ _ => [name]
  | .path p => [p]
  | .route method served description => [method, served.contentType, description]
  | .refusal r => [r.method, r.path]

/-- The member that the program holds for the row of a route. -/
def member? : Row → Option (String × Json)
  | .route method served _ => some (method, served.toJson)
  | _ => none

end Row

/-- The rows of a group: its path, and its methods in order. -/
def groupRows (group : RouteGroup) : List Row :=
  .path group.path :: group.methods.map fun m => .route m.1 (.ofEndpoint m.2) m.2.description

/-- The rows of a listing. -/
def rows (name : String) (table : RouteTable) : List Row :=
  .heading name table.routeCount table.groups.length ::
    (table.groups.flatMap groupRows ++ table.refused.map .refusal)

variable (name : String) (table : RouteTable)

/-- There is one row for the heading, and one for each path, each route and each refused
endpoint. -/
theorem length_rows : (rows name table).length =
    1 + table.groups.length + table.routeCount + table.refused.length := by
  have hgroups : (table.groups.flatMap groupRows).length =
      table.groups.length + table.routeCount := by
    rw [routeCount]
    induction table.groups with
    | nil => rfl
    | cons group rest ih =>
      rw [List.flatMap_cons, List.flatMap_cons, List.length_append, List.length_append, ih,
        groupRows, List.length_cons, List.length_map, List.length_cons]
      omega
  rw [rows, List.length_cons, List.length_append, hgroups, List.length_map]
  omega

/-! ### The listing in rows -/

theorem groupLines_eq (group : RouteGroup) :
    groupLines group = String.join ((groupRows group).map (·.text ++ "\n")) := by
  rw [groupLines, groupRows, List.map_cons, String.join_cons, List.map_map]
  rfl

theorem headingLine_eq (routes paths : Nat) :
    "📋 " ++ name ++ ": " ++ numeral routes ++ " routes in " ++ numeral paths ++ " paths\n" =
      (Row.heading name routes paths).text ++ "\n" := by
  have hend : " paths\n" = " paths" ++ "\n" := by decide
  rw [hend, ← String.append_assoc]
  rfl

/-- A listing is its rows, one after the other. -/
theorem listing_eq_join :
    listing name table = String.join ((rows name table).map (·.text ++ "\n")) := by
  have hgroups : String.join (table.groups.map groupLines) =
      String.join ((table.groups.flatMap groupRows).map (·.text ++ "\n")) := by
    induction table.groups with
    | nil => rfl
    | cons group rest ih =>
      rw [List.map_cons, String.join_cons, ih, groupLines_eq, List.flatMap_cons, List.map_append,
        String.join_append]
  delta listing
  rw [headingLine_eq, rows, List.map_cons, String.join_cons, List.map_append,
    String.join_append, hgroups, List.map_map, String.append_assoc]
  rfl

/-! ### Authored texts -/

theorem lineEnds_ofList (s : List Char) : lineEnds (String.ofList s) = s.count '\n' := by
  rw [lineEnds, String.toList_ofList]

theorem lineEnds_numeral (n : Nat) : lineEnds (numeral n) = 0 := by
  rw [numeral, lineEnds_ofList, List.count_eq_zero]
  intro h
  exact absurd ((Number.isDigits_digits n).all '\n' h) (by decide)

theorem lineEnds_padded (width : Nat) (s : String) : lineEnds (padded width s) = lineEnds s := by
  rw [padded, lineEnds_append, lineEnds_ofList, List.count_replicate]
  rfl

/-- The texts that stand between the authored ones hold no line end. -/
theorem lineEnds_fixed : lineEnds "📋 " = 0 ∧ lineEnds ": " = 0 ∧ lineEnds " routes in " = 0 ∧
    lineEnds " paths" = 0 ∧ lineEnds "  " = 0 ∧ lineEnds " " = 0 ∧ lineEnds " (delay " = 0 ∧
    lineEnds "ms)" = 0 ∧ lineEnds "  # " = 0 ∧ lineEnds "⚠️  refused " = 0 := by
  decide

theorem lineEnds_empty : lineEnds "" = 0 :=
  rfl

theorem lineEnds_message (fault : PathFault) : lineEnds fault.message = 0 := by
  cases fault
  decide

theorem lineEnds_delayNote (delay : Option Delay) : lineEnds (Row.delayNote delay) = 0 := by
  cases delay with
  | none => exact lineEnds_empty
  | some d => simp [Row.delayNote, lineEnds_numeral, lineEnds_fixed]

theorem lineEnds_descriptionNote (description : String) :
    lineEnds (Row.descriptionNote description) = lineEnds description := by
  rw [Row.descriptionNote]
  split
  · rename_i h
    rw [h]
  · simp [lineEnds_fixed]

/-- Only authored texts bring line ends into a row. -/
theorem lineEnds_text (row : Row) : lineEnds row.text = (row.authored.map lineEnds).sum := by
  -- Texts that begin with a literal are unfolded by `delta`, since making their equations
  -- evaluates the literal.
  cases row with
  | heading name routes paths =>
    show lineEnds (Row.headingText name routes paths) = _
    delta Row.headingText
    simp [Row.authored, lineEnds_numeral, lineEnds_fixed]
  | path p => simp [Row.text, Row.authored]
  | route method served description =>
    show lineEnds (Row.routeText method served description) = _
    delta Row.routeText
    simp [Row.authored, lineEnds_numeral, lineEnds_padded, lineEnds_delayNote,
      lineEnds_descriptionNote, lineEnds_fixed, Nat.add_assoc]
  | refusal r =>
    show lineEnds (Row.refusalText r) = _
    delta Row.refusalText
    simp [Row.authored, lineEnds_message, lineEnds_fixed]

/-! ### Rows and lines -/

theorem lineEnds_text_eq_zero_iff {row : Row} :
    lineEnds row.text = 0 ↔ ∀ authored ∈ row.authored, '\n' ∉ authored.toList := by
  rw [lineEnds_text, List.sum_eq_zero_iff_forall_eq_nat, List.forall_mem_map]
  simp only [lineEnds_eq_zero_iff]

/-- The rows of a group show what the program holds for it. -/
theorem groupToJson_eq (group : RouteGroup) : Served.groupToJson group =
    .object [("path", .string group.path),
      ("methods", .object ((groupRows group).filterMap Row.member?))] := by
  have hmember : Row.member? ∘ (fun m : String × Endpoint =>
      Row.route m.1 (.ofEndpoint m.2) m.2.description) =
      some ∘ fun m => (m.1, (Served.ofEndpoint m.2).toJson) := rfl
  rw [Served.groupToJson, groupRows, List.filterMap_cons_none rfl, List.filterMap_map, hmember,
    List.filterMap_eq_map]

/-- **The rows of a listing.**  There is one row for the heading, one for each path and each
route, and one for each refused endpoint, and the rows of the routes show the values that the
program holds for them.  The lines of a listing are those of its rows; every line end in an
authored text makes one line more, so the rows are the lines if and only if no authored text
holds a line end. -/
theorem listing_rows (name : String) (table : RouteTable) :
    (rows name table).length =
      1 + table.groups.length + table.routeCount + table.refused.length ∧
    listing name table = String.join ((rows name table).map (·.text ++ "\n")) ∧
    linesOf (listing name table) = (rows name table).flatMap (linesOf ·.text) ++ [""] ∧
    (linesOf (listing name table)).length = (rows name table).length +
      ((rows name table).map fun row => (row.authored.map lineEnds).sum).sum + 1 ∧
    (linesOf (listing name table) = (rows name table).map Row.text ++ [""] ↔
      ∀ row ∈ rows name table, ∀ authored ∈ row.authored, '\n' ∉ authored.toList) ∧
    Served.tableToJson table = .array (table.groups.map fun group =>
      .object [("path", .string group.path),
        ("methods", .object ((groupRows group).filterMap Row.member?))]) := by
  have htexts : (rows name table).map (·.text ++ "\n") =
      ((rows name table).map Row.text).map (· ++ "\n") := by
    rw [List.map_map]
    rfl
  refine ⟨length_rows name table, listing_eq_join name table, ?_, ?_, ?_, ?_⟩
  · rw [listing_eq_join, htexts, linesOf_join_flatMap, List.flatMap_map]
  · rw [listing_eq_join, htexts, length_linesOf_join, List.length_map, List.map_map]
    simp only [Function.comp_def, lineEnds_text]
  · rw [listing_eq_join, htexts, linesOf_join_eq_iff, List.forall_mem_map]
    simp only [lineEnds_text_eq_zero_iff]
  · rw [Served.tableToJson, funext groupToJson_eq]

/-- A description of three lines makes two rows that belong to no route. -/
theorem listing_of_broken_description :
    let table := ofRecords [.object [("path", .string "/a"),
      ("description", .string "ok\n/admin\n  GET     200 application/json")]]
    table.groups.length = 1 ∧ table.routeCount = 1 ∧ table.refused.length = 0 ∧
    linesOf (listing "Demo" table) =
      ["📋 Demo: 1 routes in 1 paths", "/a", "  GET     200 application/json  # ok", "/admin",
        "  GET     200 application/json", ""] := by
  decide +kernel

end MockServer.RouteTable
