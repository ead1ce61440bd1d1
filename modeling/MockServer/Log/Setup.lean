/-
How the log is set up.

Three variables set the level, the format of lines and whether lines say where an event
comes from; a fourth one gives a whole filter and, where it can be read, stands over the
level.  A level that is unknown counts as the one for information.
-/
import MockServer.Log.Filter
import MockServer.Text.LowerCase
import MockServer.Text.Truth

namespace MockServer.Log

/-- The format of log lines. -/
inductive Format where
  | json
  | pretty
  deriving DecidableEq, Repr

/-- The format that a word names: JSON, or else the one for readers. -/
def Format.ofWord (word : String) : Format :=
  if Text.lowerCase (Text.trim word) = "json" then .json else .pretty

/-- The name of a format. -/
def Format.name : Format → String
  | .json => "json"
  | .pretty => "pretty"

/-- The level that a word names. -/
def Level.ofWord (word : String) : Level :=
  match Text.lowerCase (Text.trim word) with
  | "trace" => .trace
  | "debug" => .debug
  | "warn" => .warn
  | "error" => .error
  | _ => .info

/-- The setup of the log. -/
structure Setup where
  levelWord : String
  format : Format
  located : Bool
  deriving DecidableEq, Repr

namespace Setup

/-- The variable of the level. -/
def levelVariable : String := "MOCKSMITH_LOG_LEVEL"

/-- The variable of the format. -/
def formatVariable : String := "MOCKSMITH_LOG_FORMAT"

/-- The variable that asks for locations. -/
def locationVariable : String := "MOCKSMITH_LOG_INCLUDE_LOCATION"

/-- The variable of the filter. -/
def filterVariable : String := "RUST_LOG"

/-- The setup without any variable. -/
def standard : Setup :=
  ⟨"info", .pretty, false⟩

/-- The setup that variables ask for. -/
def ofLookup (lookup : String → Option String) : Setup where
  levelWord := (lookup levelVariable).getD standard.levelWord
  format := ((lookup formatVariable).map Format.ofWord).getD standard.format
  located := ((lookup locationVariable).bind Text.truth?).getD standard.located

/-- The level of a setup. -/
def level (setup : Setup) : Level :=
  .ofWord setup.levelWord

/-- The filter of a setup and the variable for filters. -/
def filter (setup : Setup) (lookup : String → Option String) : Filter :=
  ((lookup filterVariable).bind Filter.ofText?).getD (.ofLevel setup.level)

/-- Without the variable for filters, the level decides. -/
theorem filter_of_unset {setup : Setup} {lookup : String → Option String}
    (h : lookup filterVariable = none) : setup.filter lookup = .ofLevel setup.level := by
  simp [filter, h]

end Setup
end MockServer.Log
