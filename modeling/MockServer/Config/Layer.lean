/-
Configuration files.

A configuration file is a TOML table with four keys, each of which may be left out.  A
directory in it that is relative lies under the directory of the file.  Members are
looked at in the order of their names, and the first one that is wrong is the fault.
-/
import MockServer.Json.Printer
import MockServer.Path
import MockServer.Toml.Reader

namespace MockServer.Config

/-- What one source of settings says; all of it may be left open. -/
structure Layer where
  resourcesDirectory : Option String
  dataDirectory : Option String
  probeToolchain : Option Bool
  scratchDirectory : Option String
  deriving DecidableEq, Repr

namespace Layer

/-- A source that leaves everything open. -/
def empty : Layer :=
  ⟨none, none, none, none⟩

/-- The keys of a configuration file. -/
def keys : List String :=
  ["resources_dir", "data_dir", "probe_toolchain", "scratch_dir"]

/-- Why a table is no configuration. -/
inductive ShapeFault where
  | unknown (label : Toml.Label)
  | mismatch (label : Toml.Label) (found : Toml.Value) (expected : String)

/-- The wording of a table that is no configuration. -/
def ShapeFault.message : ShapeFault → String
  | .unknown label => "unknown field `" ++ label.name ++ "`, expected one of "
      ++ ", ".intercalate (keys.map fun k => "`" ++ k ++ "`")
  | .mismatch _ found expected => "invalid type: " ++ found.described ++ ", expected " ++ expected

/-- The stretch of the text to which a fault points. -/
def ShapeFault.span : ShapeFault → Toml.Span
  | .unknown label => label.span
  | .mismatch label _ _ => label.value

/-- Reads a path. -/
def readPath (label : Toml.Label) : Toml.Value → Except ShapeFault String
  | .string s => .ok s
  | found => .error (.mismatch label found "path string")

/-- Reads a truth value. -/
def readTruth (label : Toml.Label) : Toml.Value → Except ShapeFault Bool
  | .boolean b => .ok b
  | found => .error (.mismatch label found "a boolean")

/-- Takes one member into a layer. -/
def setMember (layer : Layer) (label : Toml.Label) (value : Toml.Value) :
    Except ShapeFault Layer :=
  match label.name with
  | "resources_dir" => (readPath label value).map fun v => { layer with resourcesDirectory := v }
  | "data_dir" => (readPath label value).map fun v => { layer with dataDirectory := v }
  | "probe_toolchain" => (readTruth label value).map fun v => { layer with probeToolchain := v }
  | "scratch_dir" => (readPath label value).map fun v => { layer with scratchDirectory := v }
  | _ => .error (.unknown label)

/-- Reads a layer from a table. -/
def ofTable? (table : Toml.Table) : Except ShapeFault Layer :=
  (table.mergeSort fun a b => a.1.name ≤ b.1.name).foldlM
    (fun layer m => layer.setMember m.1 m.2) empty

/-- The layer with its relative directories under a base. -/
def under (layer : Layer) (base : String) : Layer where
  resourcesDirectory := layer.resourcesDirectory.map (Path.join base)
  dataDirectory := layer.dataDirectory.map (Path.join base)
  probeToolchain := layer.probeToolchain
  scratchDirectory := layer.scratchDirectory.map (Path.join base)

/-- A text or null. -/
def optionalText : Option String → Json
  | some s => .string s
  | none => .null

/-- A truth value or null. -/
def optionalTruth : Option Bool → Json
  | some b => .bool b
  | none => .null

/-- The value of a layer; what it leaves open is null. -/
def toJson (layer : Layer) : Json :=
  .object [("resources_dir", optionalText layer.resourcesDirectory),
    ("data_dir", optionalText layer.dataDirectory),
    ("probe_toolchain", optionalTruth layer.probeToolchain),
    ("scratch_dir", optionalText layer.scratchDirectory)]

/-! ### Texts -/

/-- Why a text is no configuration. -/
inductive TextFault where
  | notToml (fault : Toml.Fault)
  | shape (fault : ShapeFault)

/-- The short wording of a text that is no configuration, where its form is right. -/
def TextFault.detail? : TextFault → Option String
  | .notToml _ => none
  | .shape fault => some fault.message

/-- The full wording of a text that is no configuration. -/
def TextFault.message (source : String) : TextFault → String
  | .notToml fault => fault.shown source
  | .shape fault => Toml.shown source fault.span fault.message

/-- Reads the text of a configuration file. -/
def read (text : String) : Except TextFault Layer := do
  let table ← (Toml.read text).mapError .notToml
  (ofTable? table).mapError .shape

end Layer
end MockServer.Config
