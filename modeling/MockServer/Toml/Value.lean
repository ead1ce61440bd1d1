/-
TOML values.

A table knows how it came to be, since that decides whether it may be added to: by its
own heading, by the heading of a table inside it, by a dotted key, or between braces.
Every member keeps the places of its name and its value, for messages about them.  A
place is counted by the characters that follow it.
-/
import MockServer.Number.Notation
import MockServer.Text.Quoted

namespace MockServer.Toml

/-- A stretch of a text: how many characters follow its beginning and its end. -/
structure Span where
  start : Nat
  stop : Nat
  deriving DecidableEq, Repr

/-- The name of a member, with the places of the name and of the value. -/
structure Label where
  name : String
  span : Span
  value : Span
  deriving DecidableEq, Repr

/-- How a table came to be. -/
inductive TableOrigin where
  | heading
  | implied
  | dotted
  | inline
  deriving DecidableEq, Repr

/-- A number with a fraction or an exponent, or one that is not finite. -/
inductive FloatValue where
  | finite (value : Number.Binary64)
  | infinite (negative : Bool)
  | notANumber
  deriving DecidableEq

/-- A value.  `tables` is an array that grows by headings. -/
inductive Value where
  | string (text : String)
  | integer (value : Int)
  | float (value : FloatValue)
  | boolean (value : Bool)
  | moment
  | array (items : List Value)
  | tables (items : List (List (Label × Value)))
  | table (origin : TableOrigin) (members : List (Label × Value))

/-- The members of a table. -/
abbrev Table := List (Label × Value)

/-- The text of a number with a fraction or an exponent. -/
def FloatValue.text : FloatValue → String
  | .finite x => String.ofList (x.text .plain)
  | .infinite negative => if negative then "-inf" else "inf"
  | .notANumber => "NaN"

/-- The kind of a value, with the value where it is no collection. -/
def Value.described : Value → String
  | .string s => "string " ++ Text.quoted s
  | .integer z =>
    let text := "integer `" ++ String.ofList (Number.integer z) ++ "`"
    if -0x8000000000000000 ≤ z ∧ z < 0x10000000000000000 then text
    else if z < 0x80000000000000000000000000000000 then text ++ " as i128"
    else text ++ " as u128"
  | .float x => "floating point `" ++ x.text ++ "`"
  | .boolean b => if b then "boolean `true`" else "boolean `false`"
  | .moment => "map"
  | .array _ => "sequence"
  | .tables _ => "sequence"
  | .table _ _ => "map"

end MockServer.Toml
