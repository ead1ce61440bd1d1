/-
Log lines.

An event becomes one JSON object on a line, or a text for readers, which spreads over
more lines where a shown value does.  Where the setup asks for locations, a line names
the part of the program that speaks and the number of the event in the log.
-/
import MockServer.Json.Printer
import MockServer.Log.Setup
import MockServer.Text.Quoted

namespace MockServer.Log

/-- The members that locate an event. -/
def location (event : Event) (number : Nat) : List (String × Json) :=
  [("filename", .string event.target), ("line_number", .ofNat number)]

/-- The members of a line under the key of the fields. -/
def Event.members (event : Event) : List (String × Json) :=
  ("message", .string event.message) :: event.fields.map fun f => (f.1, f.2.toJson)

/-- An event as a JSON object. -/
def Event.toJson (event : Event) (time : String) (number : Nat) (located : Bool) : Json :=
  .object ([("timestamp", .string time), ("level", .string event.level.name),
      ("fields", .object event.members), ("target", .string event.target)]
    ++ if located then location event number else [])

/-- A value for readers. -/
def Value.text : Value → String
  | .shown text => text
  | .quoted text => Text.quoted text
  | .count n => String.ofList (Number.digits n)
  | .truth b => if b then "true" else "false"

/-- An event as a text for readers. -/
def Event.prettyText (event : Event) (time : String) (number : Nat) (located : Bool) : String :=
  " ".intercalate ([time, event.level.name]
    ++ (if located then [event.target ++ ":" ++ String.ofList (Number.digits number) ++ ":"]
      else [])
    ++ [event.message] ++ event.fields.map fun f => f.1 ++ "=" ++ f.2.text)

/-- The text of an event in the log, with the line's end. -/
def Setup.entry (setup : Setup) (time : String) (number : Nat) (event : Event) : String :=
  (match setup.format with
    | .json => (event.toJson time number setup.located).text
    | .pretty => event.prettyText time number setup.located) ++ "\n"

/-- The texts of some events in the log. -/
def Setup.entries (setup : Setup) (filter : Filter) (time : String) (events : List Event) :
    List String :=
  (events.filter filter.admits).mapIdx fun i event => setup.entry time (i + 1) event

end MockServer.Log
