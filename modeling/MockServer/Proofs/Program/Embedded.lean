/-
The table that a main file holds, as its program reads it.

The program takes the literal of its table for a text, the text for JSON, and the JSON apart
by its own types: fields by their names in any case, maps in which a repeated key overwrites,
and bodies that stay raw text.  What it finds under a path and a method is what the table
answers there.  Main statements:

* `tableText?_ofTable` — the literal of the table is the text of its value;
* `readGroups_tableToJson` — the text is taken apart into the groups of the table;
* `embedded_lookup` — the program finds an entry exactly where the table answers, and the
  entry is what is served there.

Design notes: a value is read into a place that already holds something, since a null
leaves numbers, texts and records as they are.
-/
import MockServer.Proofs.Json.Raw
import MockServer.Proofs.Program.Lines
import MockServer.Proofs.Served.Headers
import MockServer.Proofs.Text.Utf8

namespace MockServer.Program

open Json (Raw)
open Keyed

/-! ### Reading values into places -/

/-- Reads an integer into a place. -/
def readInteger (current : Int) (s : Raw) : Option Int :=
  if s = Raw.null then some current else s.integer?

/-- Reads a text into a place. -/
def readText (current : String) (s : Raw) : Option String :=
  if s = Raw.null then some current else s.string?

/-- Keeps the raw text of a value that is not null. -/
def readRaw (s : Raw) : Option String :=
  if s = Raw.null then none else some (String.ofList s)

/-- Reads an object into a map, each value into an empty place; a null empties the map. -/
def readMap {α : Type} (read : Raw → Option α) (current : String → Option α) (s : Raw) :
    Option (String → Option α) :=
  if s = Raw.null then some fun _ => none
  else do
    let ms ← s.members?
    let entries ← ms.mapM fun m => (read m.2).map (m.1, ·)
    some (entered entries current)

/-- Reads an object into a record, one member after the other. -/
def readRecord {α : Type} (readField : α → String → Raw → Option α) (current : α) (s : Raw) :
    Option α :=
  if s = Raw.null then some current
  else s.members?.bind (·.foldlM (fun a m => readField a m.1 m.2) current)

/-- A character as field names are compared: two letters beyond ASCII fold to ASCII ones. -/
def foldedChar (c : Char) : Char :=
  if c = '\u017f' then 's' else if c = '\u212a' then 'k' else c.toLower

/-- Is a key the name of a field, in any case? -/
def isField (name key : String) : Bool :=
  key.toList.map foldedChar == name.toList.map foldedChar

/-! ### The types of the program -/

/-- An endpoint as the program holds it. -/
structure Entry where
  status : Int
  contentType : String
  headers : String → Option String
  delayMs : Int
  body : Option String

namespace Entry

/-- An endpoint of which nothing was read. -/
def empty : Entry :=
  ⟨0, "", fun _ => none, 0, none⟩

/-- Reads the field that a key names; a member without a field is passed over. -/
def readField (e : Entry) (key : String) (s : Raw) : Option Entry :=
  if isField "status" key then (readInteger e.status s).map ({ e with status := · })
  else if isField "contentType" key then
    (readText e.contentType s).map ({ e with contentType := · })
  else if isField "headers" key then
    (readMap (readText "") e.headers s).map ({ e with headers := · })
  else if isField "delayMs" key then (readInteger e.delayMs s).map ({ e with delayMs := · })
  else if isField "body" key then some { e with body := readRaw s }
  else some e

/-- Reads an endpoint. -/
def read (s : Raw) : Option Entry :=
  readRecord readField empty s

/-- What is served, as the program holds it. -/
def ofServed (s : Served) : Entry where
  status := s.status.code
  contentType := s.contentType
  headers := entered s.headers fun _ => none
  delayMs := (s.delay.map fun d => (d.milliseconds : Int)).getD 0
  body := s.body.map Json.text

end Entry

/-- A group as the program holds it. -/
structure EntryGroup where
  path : String
  methods : String → Option Entry

namespace EntryGroup

/-- A group of which nothing was read. -/
def empty : EntryGroup :=
  ⟨"", fun _ => none⟩

/-- Reads the field that a key names; a member without a field is passed over. -/
def readField (g : EntryGroup) (key : String) (s : Raw) : Option EntryGroup :=
  if isField "path" key then (readText g.path s).map ({ g with path := · })
  else if isField "methods" key then
    (readMap Entry.read g.methods s).map ({ g with methods := · })
  else some g

/-- Reads a group. -/
def read (s : Raw) : Option EntryGroup :=
  readRecord readField empty s

/-- A group of a table, as the program holds it. -/
def ofGroup (group : RouteGroup) : EntryGroup where
  path := group.path
  methods :=
    entered (group.methods.map fun m => (m.1, Entry.ofServed (Served.ofEndpoint m.2))) fun _ => none

end EntryGroup

/-- Reads a list of groups. -/
def readGroups (s : Raw) : Option (List EntryGroup) :=
  if s = Raw.null then some [] else s.items?.bind (·.mapM EntryGroup.read)

/-- The handlers of a program: the methods of each path. -/
abbrev Handlers := String → Option (String → Option Entry)

/-- The groups by their paths, a later one in place of an earlier one. -/
def handlersOf (groups : List EntryGroup) : Handlers :=
  entered (groups.map fun g => (g.path, g.methods)) fun _ => none

/-- The entry under a path and a method. -/
def Handlers.lookup (handlers : Handlers) (method path : String) : Option Entry :=
  (handlers path).bind (· method)

/-- The text of the one literal that stands behind the mark of the table. -/
def tableText? (mainFile : String) : Option String :=
  match marked tableMark (linesOf mainFile) with
  | [line] => (interpreted? (line.toList.drop tableMark.toList.length)).bind Text.decode?
  | _ => none

/-- The handlers that a program builds from its own main file. -/
def embedded? (mainFile : String) : Option Handlers := do
  let text ← tableText? mainFile
  let value ← Json.raw? text.toList
  let groups ← readGroups value
  some (handlersOf groups)

/-! ### Written values are read into places -/

theorem readText_compact (current s : String) :
    readText current (Json.string s).compact = some s := by
  rw [readText, if_neg (Raw.compact_ne_null (by simp)), Raw.string?_compact]

theorem readInteger_ofNat (current : Int) {n : Nat} (h : n < 0x8000000000000000) :
    readInteger current (Json.ofNat n).compact = some (n : Int) := by
  rw [readInteger, if_neg (Raw.compact_ne_null (by simp [Json.ofNat])), Raw.integer?_ofNat h]

theorem readRaw_compact {v : Json} (h : v ≠ .null) : readRaw v.compact = some v.text := by
  rw [readRaw, if_neg (Raw.compact_ne_null h), Json.text]

theorem mapM_eq_some {α β γ : Type} {read : β → Option γ} {write : α → β} {f : α → γ}
    {xs : List α} (h : ∀ x ∈ xs, read (write x) = some (f x)) :
    (xs.map write).mapM read = some (xs.map f) := by
  induction xs with
  | nil => rfl
  | cons x rest ih =>
    obtain ⟨hx, hrest⟩ := List.forall_mem_cons.1 h
    rw [List.map_cons, List.mapM_cons, hx, ih hrest]
    rfl

/-- A written map is read back, entry by entry. -/
theorem readMap_compact {α β : Type} {read : Raw → Option β} (write : α → Json) (f : α → β)
    {entries : List (String × α)} (h : ∀ x ∈ entries, read (write x.2).compact = some (f x.2))
    (current : String → Option β) :
    readMap read current (Json.object (entries.map fun x => (x.1, write x.2))).compact =
      some (entered (entries.map fun x => (x.1, f x.2)) current) := by
  have hread : (entries.map fun x : String × α => (x.1, (write x.2).compact)).mapM
      (fun m : String × Raw => (read m.2).map (m.1, ·)) =
        some (entries.map fun x => (x.1, f x.2)) :=
    mapM_eq_some fun x hx => by rw [h x hx, Option.map_some]
  rw [readMap, if_neg (Raw.compact_ne_null (by simp)), Raw.members?_compact, Option.bind_eq_bind,
    Option.bind_some, List.map_map, Function.comp_def, hread]
  rfl

/-- A written object is read into a record, member by member. -/
theorem readRecord_compact {α : Type} (readField : α → String → Raw → Option α) (current : α)
    (ms : List (String × Json)) :
    readRecord readField current (Json.object ms).compact =
      ms.foldlM (fun a m => readField a m.1 m.2.compact) current := by
  rw [readRecord, if_neg (Raw.compact_ne_null (by simp)), Raw.members?_compact, Option.bind_some,
    List.foldlM_map]

/-! ### The text of the table is taken apart -/

namespace Entry

section

variable (e : Entry)

theorem readField_status (status : Status) :
    e.readField "status" status.toJson.compact = some { e with status := status.code } := by
  have hcode : status.code < 0x8000000000000000 := by
    have := status.inRange
    omega
  have hfield : ∀ raw, e.readField "status" raw =
      (readInteger e.status raw).map ({ e with status := · }) := fun _ => rfl
  rw [hfield, Status.toJson, readInteger_ofNat _ hcode, Option.map_some]

theorem readField_contentType (text : String) :
    e.readField "contentType" (Json.string text).compact = some { e with contentType := text } := by
  have hfield : ∀ raw, e.readField "contentType" raw =
      (readText e.contentType raw).map ({ e with contentType := · }) := fun _ => rfl
  rw [hfield, readText_compact, Option.map_some]

theorem readField_headers (headers : List (String × String)) :
    e.readField "headers" (Json.object (headers.map fun h => (h.1, .string h.2))).compact =
      some { e with headers := entered headers e.headers } := by
  have hfield : ∀ raw, e.readField "headers" raw =
      (readMap (readText "") e.headers raw).map ({ e with headers := · }) := fun _ => rfl
  rw [hfield, readMap_compact .string id fun h _ => readText_compact "" h.2, Option.map_some]
  simp only [id_eq, Prod.mk.eta, List.map_id']

/-- A delay is read where there is one. -/
theorem readField_delayMs (delay : Option Delay) :
    (delay.map fun d => ("delayMs", d.toJson)).toList.foldlM
        (fun a m => readField a m.1 m.2.compact) e =
      some { e with delayMs := (delay.map fun d => (d.milliseconds : Int)).getD e.delayMs } := by
  have hfield : ∀ raw, e.readField "delayMs" raw =
      (readInteger e.delayMs raw).map ({ e with delayMs := · }) := fun _ => rfl
  cases delay with
  | none => rfl
  | some d =>
    have hlt : d.milliseconds < 0x8000000000000000 := by
      have := d.nanoseconds_lt
      omega
    rw [Option.map_some, Option.toList_some, List.foldlM_cons, hfield, Delay.toJson,
      readInteger_ofNat _ hlt]
    rfl

/-- A body that is not null is read where there is one. -/
theorem readField_body {body : Option Json} (h : body ≠ some .null) :
    (body.map fun b => ("body", b)).toList.foldlM
        (fun a m => readField a m.1 m.2.compact) e =
      some { e with body := (body.map Json.text).or e.body } := by
  have hfield : ∀ raw, e.readField "body" raw = some { e with body := readRaw raw } :=
    fun _ => rfl
  cases body with
  | none => rfl
  | some v =>
    have hv : v ≠ .null := fun h0 => h (h0 ▸ rfl)
    rw [Option.map_some, Option.toList_some, List.foldlM_cons, hfield, readRaw_compact hv]
    rfl

end

/-- What is served is read back, if no null is served. -/
theorem read_toJson {s : Served} (h : s.body ≠ some .null) :
    read s.toJson.compact = some (ofServed s) := by
  obtain ⟨status, contentType, headers, delay, body⟩ := s
  rw [read, Served.toJson, readRecord_compact, List.foldlM_append, List.foldlM_append]
  simp only [List.foldlM_cons, List.foldlM_nil, readField_status, readField_contentType,
    readField_headers, readField_delayMs, readField_body _ h, Option.bind_eq_bind,
    Option.bind_some, Option.pure_def]
  simp only [ofServed, empty, Option.or_none]

end Entry

namespace EntryGroup

/-- The endpoints of a group serve no null. -/
def IsFilled (group : RouteGroup) : Prop :=
  ∀ m ∈ group.methods, m.2.response.body ≠ some .null

/-- A group is read back. -/
theorem read_groupToJson {group : RouteGroup} (h : IsFilled group) :
    read (Served.groupToJson group).compact = some (ofGroup group) := by
  have hpath : ∀ (g : EntryGroup) raw, g.readField "path" raw =
      (readText g.path raw).map ({ g with path := · }) := fun _ _ => rfl
  have hmethods : ∀ (g : EntryGroup) raw, g.readField "methods" raw =
      (readMap Entry.read g.methods raw).map ({ g with methods := · }) := fun _ _ => rfl
  have hread : ∀ m ∈ group.methods, Entry.read (Served.ofEndpoint m.2).toJson.compact =
      some (Entry.ofServed (Served.ofEndpoint m.2)) := fun m hm => Entry.read_toJson (h m hm)
  rw [read, Served.groupToJson, readRecord_compact, List.foldlM_cons, hpath, readText_compact,
    Option.map_some, Option.bind_eq_bind, Option.bind_some, List.foldlM_cons, hmethods,
    readMap_compact (fun e => (Served.ofEndpoint e).toJson)
      (fun e => Entry.ofServed (Served.ofEndpoint e)) hread]
  rfl

end EntryGroup

/-- The text of a table is taken apart into the groups of the table. -/
theorem readGroups_tableToJson {table : RouteTable}
    (h : ∀ group ∈ table.groups, EntryGroup.IsFilled group) :
    readGroups (Served.tableToJson table).compact =
      some (table.groups.map EntryGroup.ofGroup) := by
  rw [readGroups, Served.tableToJson, if_neg (Raw.compact_ne_null (by simp)), Raw.items?_compact,
    Option.bind_some, List.map_map]
  exact mapM_eq_some fun group hg => EntryGroup.read_groupToJson (h group hg)

/-! ### What the program finds -/

/-- The literal of the table is the text of its value. -/
theorem tableText?_ofTable (table : RouteTable) (name : String) :
    tableText? (ofTable table name).mainFile = some (Served.tableToJson table).text := by
  have hmarked : marked tableMark (fileLines table name) = [tableMark ++ tableRest table] := by
    rw [marked_fileLines table name (by decide)]
    rfl
  rw [tableText?, linesOf_ofTable, hmarked]
  show (interpreted? ((tableMark ++ tableRest table).toList.drop
    tableMark.toList.length)).bind _ = _
  rw [String.toList_append, List.drop_left, tableRest, interpreted?_literal, Option.bind_some,
    Text.decode?_encode]

/-- Where no path and no method of a path stands twice, the handlers find what the table
answers. -/
theorem lookup_handlersOf {table : RouteTable} (hp : table.paths.Nodup)
    (hm : ∀ group ∈ table.groups, group.methodNames.Nodup) (method path : String) :
    (handlersOf (table.groups.map EntryGroup.ofGroup)).lookup method path =
      (table.lookup method path).map fun e => Entry.ofServed (Served.ofEndpoint e) := by
  have hpaths : ((table.groups.map EntryGroup.ofGroup).map EntryGroup.path).Nodup := by
    rwa [List.map_map]
  rw [Handlers.lookup, handlersOf, entered_map hpaths, List.find?_map, RouteTable.lookup,
    RouteTable.group?]
  show ((Option.map EntryGroup.ofGroup (table.groups.find? (·.path == path))).map
    EntryGroup.methods).bind (· method) = _
  cases hg : table.groups.find? (·.path == path) with
  | none => rfl
  | some group =>
    have hnames := hm group (List.mem_of_find?_eq_some hg)
    rw [Option.map_some, Option.map_some, Option.bind_some, Option.bind_some, RouteGroup.get?,
      Option.map_map]
    exact entered_map hnames (fun m => Entry.ofServed (Served.ofEndpoint m.2)) method

/-- No two headers that are passed on have one name. -/
theorem nodup_passedHeaders (headers : List (String × Json)) :
    ((Served.passedHeaders headers).map Prod.fst).Nodup := by
  refine List.Nodup.of_map Text.asciiLower ?_
  rw [List.map_map]
  exact Served.nodup_classes_passedHeaders headers

/-- An authored null is no body. -/
theorem body_ofRecord_ne_null (record : Json) :
    (Endpoint.ofRecord record).response.body ≠ some .null := by
  have hbody : ∀ value, Endpoint.bodyOf value ≠ some .null := by
    intro value h
    rw [Endpoint.bodyOf, Option.filter_eq_some_iff] at h
    exact absurd h.2 (by decide)
  show (Endpoint.responseOf record).body ≠ some .null
  rw [Endpoint.responseOf]
  split
  · exact hbody _
  · exact hbody _

/-- What the program holds of an endpoint is what is served for it. -/
structure Entry.Holds (entry : Entry) (s : Served) : Prop where
  status : entry.status = s.status.code
  contentType : entry.contentType = s.contentType
  headers : ∀ name text, entry.headers name = some text ↔ (name, text) ∈ s.headers
  delayMs : entry.delayMs = (s.delay.map fun d => (d.milliseconds : Int)).getD 0
  body : entry.body = s.body.map Json.text

theorem Entry.holds_ofServed (endpoint : Endpoint) :
    (Entry.ofServed (Served.ofEndpoint endpoint)).Holds (Served.ofEndpoint endpoint) where
  status := rfl
  contentType := rfl
  headers _ _ := entered_eq_some_iff (nodup_passedHeaders endpoint.headers)
  delayMs := rfl
  body := rfl

/-- **The program answers what the table answers.**  Whatever the records and the name, the
program reads its own main file, and under a method and a path it holds what is served for
the endpoint that the table finds there, or nothing where the table finds none. -/
theorem embedded_lookup (records : List Json) (name : String) :
    ∃ handlers, embedded? (ofTable (.ofRecords records) name).mainFile = some handlers ∧
      ∀ method path, Option.Rel (fun entry e => Entry.Holds entry (Served.ofEndpoint e))
        (handlers.lookup method path) ((RouteTable.ofRecords records).lookup method path) := by
  rw [RouteTable.ofRecords]
  set endpoints := records.map Endpoint.ofRecord with hendpoints
  have hfilled : ∀ group ∈ (RouteTable.ofEndpoints endpoints).groups,
      EntryGroup.IsFilled group := by
    intro group hg m hm
    have he := (RouteTable.mem_of_last? (RouteTable.last?_of_mem hg hm)).1
    obtain ⟨record, -, hr⟩ := List.mem_map.1 (List.mem_filter.1 he).1
    rw [← hr]
    exact body_ofRecord_ne_null record
  refine ⟨handlersOf ((RouteTable.ofEndpoints endpoints).groups.map EntryGroup.ofGroup), ?_, ?_⟩
  · rw [embedded?, tableText?_ofTable, Option.bind_eq_bind, Option.bind_some, Json.text,
      String.toList_ofList, Json.raw?_compact, Option.bind_eq_bind, Option.bind_some,
      readGroups_tableToJson hfilled]
    rfl
  · intro method path
    rw [lookup_handlersOf (RouteTable.nodup_paths_ofEndpoints endpoints)
      fun group hg => RouteTable.nodup_methodNames_of_mem hg]
    cases (RouteTable.ofEndpoints endpoints).lookup method path with
    | none => exact .none
    | some e => exact .some (Entry.holds_ofServed e)

end MockServer.Program
