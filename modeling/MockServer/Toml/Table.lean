/-
Adding to tables.

A name stands once in a table.  A heading opens a table that had none, and a dotted key
adds only to tables that have no heading of their own; what stands between braces is
closed.  Main statement: `addMember_names` — adding a member appends its name.
-/
import MockServer.Toml.Fault

namespace MockServer.Toml

/-- The value of a member. -/
def find? (name : String) (table : Table) : Option Value :=
  (table.find? (·.1.name == name)).map Prod.snd

/-- Puts a value in place of that of a member. -/
def replace (name : String) (value : Value) (table : Table) : Table :=
  table.map fun m => if m.1.name = name then (m.1, value) else m

/-- Adds a member with a new name. -/
def addMember (label : Label) (value : Value) (table : Table) : Except Fault Table :=
  match find? label.name table with
  | some _ => .error ⟨.duplicateKey, label.span⟩
  | none => .ok (table ++ [(label, value)])

/-- A change of the last of some tables. -/
def changeLast (change : Table → Except Fault Table) : List Table → Except Fault (List Table)
  | [] => .ok []
  | [last] => (change last).map fun t => [t]
  | t :: rest => (changeLast change rest).map fun ts => t :: ts

/-- A change of the table at a path.  Tables that are missing on the way are made; those of a
dotted key only pass through tables without a heading of their own. -/
def changeAt (dotted : Bool) (change : Table → Except Fault Table) :
    List Label → Table → Except Fault Table
  | [], table => change table
  | label :: path, table =>
    match find? label.name table with
    | none => do
      let inner ← changeAt dotted change path []
      .ok (table ++ [(label, .table (if dotted then .dotted else .implied) inner)])
    | some (.table origin members) =>
      -- What stands between braces is complete, and a heading is not reopened by a dotted key.
      if origin = .inline then .error ⟨.notExtensible, label.span⟩
      else if dotted && origin = .heading then .error ⟨.duplicateKey, label.span⟩
      else do
        let inner ← changeAt dotted change path members
        .ok (replace label.name (.table origin inner) table)
    -- Behind the heading of an array, names are those of its last table.
    | some (.tables items) => do
      let items ← changeLast (changeAt dotted change path) items
      .ok (replace label.name (.tables items) table)
    | some _ => .error ⟨.notExtensible, label.span⟩

/-- Opens the table of a heading. -/
def openTable (label : Label) (table : Table) : Except Fault Table :=
  match find? label.name table with
  | none => .ok (table ++ [(label, .table .heading [])])
  | some (.table .implied members) => .ok (replace label.name (.table .heading members) table)
  | some _ => .error ⟨.duplicateKey, label.span⟩

/-- Opens one more table of an array that grows by headings. -/
def openEntry (label : Label) (table : Table) : Except Fault Table :=
  match find? label.name table with
  | none => .ok (table ++ [(label, .tables [[]])])
  | some (.tables items) => .ok (replace label.name (.tables (items ++ [[]])) table)
  | some _ => .error ⟨.duplicateKey, label.span⟩

/-- Adds the value of a key, which may be dotted. -/
def addKey (path : List Label) (label : Label) (value : Value) (table : Table) :
    Except Fault Table :=
  changeAt true (addMember label value) path table

/-- Adding a member appends its name. -/
theorem addMember_names {label : Label} {value : Value} {table result : Table}
    (h : addMember label value table = .ok result) :
    result.map (·.1.name) = table.map (·.1.name) ++ [label.name] := by
  unfold addMember at h
  split at h
  · cases h
  · cases h
    simp

end MockServer.Toml
