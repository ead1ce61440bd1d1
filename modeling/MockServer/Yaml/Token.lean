/-
Tokens of YAML texts.

The indentation of a text is turned into brackets of its own: a block sequence and a
block mapping begin with a token and end with `blockEnd`, as flow collections do with
their written brackets.
-/
namespace MockServer.Yaml

/-- A token. -/
inductive Token where
  | version (major minor : Nat)
  | handle (name leading : String)
  | documentStart
  | documentEnd
  | blockSequence
  | blockMapping
  | blockEnd
  | flowSequence
  | flowSequenceEnd
  | flowMapping
  | flowMappingEnd
  | entry
  | comma
  | key
  | value
  | alias (name : String)
  | anchor (name : String)
  | tag (handle suffix : String)
  | scalar (plain : Bool) (text : String)
  deriving DecidableEq, Repr

end MockServer.Yaml
