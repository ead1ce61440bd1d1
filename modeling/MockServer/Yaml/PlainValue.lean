/-
What a scalar without quotes stands for.

A plain scalar is null, a truth value, an integer, a number or else a text.  Integers
are decimal, or hexadecimal, octal or binary behind `0x`, `0o` and `0b`; digits behind a
leading zero are a text.  A tag of the standard schema asks for one kind and refuses
every other spelling.
-/
import MockServer.Json.Basic
import MockServer.Number.Reading
import MockServer.Text.Hex

namespace MockServer.Yaml

open Number (natural? binary64? splitSign)

/-! ### Integers -/

/-- The value of a digit in a base of at most sixteen. -/
def digitIn? (base : Nat) (c : Char) : Option Nat :=
  (Text.hexValue? c).filter (· < base)

/-- The number that digits in a base denote. -/
def numberIn? (base : Nat) (s : List Char) : Option Nat :=
  if s = [] then none
  else s.foldlM (fun n c => (digitIn? base c).map (n * base + ·)) 0

/-- The number behind `0x`, `0o` or `0b`. -/
def markedNumber? : List Char → Option Nat
  | '0' :: 'x' :: r => numberIn? 16 r
  | '0' :: 'o' :: r => numberIn? 8 r
  | '0' :: 'b' :: r => numberIn? 2 r
  | _ => none

/-- Without its sign: is it a zero with further digits behind it? -/
def isZeroLed (s : List Char) : Bool :=
  match (splitSign s).2 with
  | '0' :: d :: r => (d :: r).all Char.isDigit
  | _ => false

/-- The integer of a plain scalar, of any size. -/
def integer? (s : List Char) : Option Int :=
  match s with
  | '-' :: r =>
    ((markedNumber? r).or (if isZeroLed s then none else numberIn? 10 r)).map fun n => -(n : Int)
  | _ =>
    let body := match s with
      | '+' :: r => r
      | r => r
    ((markedNumber? body).or (if isZeroLed s then none else numberIn? 10 body)).map Int.ofNat

/-- Does an integer fit 128 bits, with a sign where it is negative? -/
def fitsDoubleWord (z : Int) : Bool :=
  -0x80000000000000000000000000000000 ≤ z && z < 0x100000000000000000000000000000000

/-- The value of an integer: one that fits 64 bits.  One that fits 128 bits is refused, and
one beyond is no integer. -/
inductive IntegerValue where
  | none
  | refused
  | some (value : Json)

/-- Reads an integer. -/
def integerValue (s : List Char) : IntegerValue :=
  match integer? s with
  | Option.none => .none
  | Option.some z =>
    if h : FitsWord z then .some (.number (.integer z h))
    else if fitsDoubleWord z then .refused
    else .none

/-! ### Numbers, truth values and null -/

/-- The names of null. -/
def isNullName (s : String) : Bool :=
  s == "null" || s == "Null" || s == "NULL" || s == "~"

/-- The truth values. -/
def truth? (s : String) : Option Bool :=
  if s == "true" || s == "True" || s == "TRUE" then some true
  else if s == "false" || s == "False" || s == "FALSE" then some false
  else none

/-- A number that is not finite; JSON has no such numbers, and null stands for them. -/
def isNotFinite (s : String) : Bool :=
  [".inf", ".Inf", ".INF", "+.inf", "+.Inf", "+.INF", "-.inf", "-.Inf", "-.INF", ".nan", ".NaN",
    ".NAN"].contains s

/-- Reads a number with a fraction or an exponent, or of many digits. -/
def double? (s : String) : Option Json :=
  if isNotFinite s then some .null
  else
    let body := match s.toList with
      | '+' :: r => if r.head? == some '+' || r.head? == some '-' then [] else r
      | r => r
    (binary64? body).map fun x => .number (.double x)

/-! ### Scalars -/

/-- The value of a plain scalar without a tag; `none` for an integer of more than 64 bits. -/
def plainValue? (s : String) : Option Json :=
  if s == "" || isNullName s then some .null
  else match truth? s with
    | some b => some (.bool b)
    | none => match integerValue s.toList with
      | .some v => some v
      | .refused => none
      | .none =>
        if isZeroLed s.toList then some (.string s)
        else some ((double? s).getD (.string s))

/-- The beginning of the tags of the standard schema. -/
def standardTag (kind : String) : String :=
  "tag:yaml.org,2002:" ++ kind

/-- Is it a tag of the document's own, which no value has? -/
def isOwnTag (tag : String) : Bool :=
  tag.toList.head? == some '!'

/-- The value of a scalar with a tag. -/
def taggedValue? (tag text : String) : Option Json :=
  if isOwnTag tag then none
  else if tag == standardTag "bool" then (truth? text).map .bool
  else if tag == standardTag "int" then
    match integerValue text.toList with
    | .some v => some v
    | _ => none
  else if tag == standardTag "float" then double? text
  else if tag == standardTag "null" then if isNullName text then some .null else none
  else some (.string text)

/-- The value of a scalar. -/
def scalarValue? (tag : Option String) (plain : Bool) (text : String) : Option Json :=
  match tag with
  | some tag => taggedValue? tag text
  | none => if plain then plainValue? text else some (.string text)

end MockServer.Yaml
