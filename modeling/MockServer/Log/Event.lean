/-
Log events.

An event has a level, the part of the program that it comes from, a message and
named values.  Events are data: an operation that has something to tell returns
them, and only the outermost layer writes them.
-/
import MockServer.Json.Basic

namespace MockServer.Log

/-- How much an event matters, from least to most. -/
inductive Level where
  | trace
  | debug
  | info
  | warn
  | error
  deriving DecidableEq, Repr

namespace Level

/-- The rank of a level: the more it matters, the higher. -/
def rank : Level → Nat
  | .trace => 0
  | .debug => 1
  | .info => 2
  | .warn => 3
  | .error => 4

/-- The name of a level in log lines. -/
def name : Level → String
  | .trace => "TRACE"
  | .debug => "DEBUG"
  | .info => "INFO"
  | .warn => "WARN"
  | .error => "ERROR"

theorem rank_injective {a b : Level} (h : a.rank = b.rank) : a = b := by
  cases a <;> cases b <;> first | rfl | cases h

end Level

/-- A value that an event names.  Some texts are shown as they are, others between
quotation marks, where a line is meant for a reader. -/
inductive Value where
  | shown (text : String)
  | quoted (text : String)
  | count (n : Nat)
  | truth (b : Bool)
  deriving DecidableEq, Repr

/-- The value as JSON. -/
def Value.toJson : Value → Json
  | .shown text => .string text
  | .quoted text => .string text
  | .count n => .ofNat n
  | .truth b => .bool b

/-- A log event. -/
structure Event where
  level : Level
  target : String
  message : String
  fields : List (String × Value)
  deriving DecidableEq, Repr

end MockServer.Log
