/-
Scalars of TOML without quotes.

Numbers may be divided by single underscores between digits.  A decimal number has no
zero in front; hexadecimal, octal and binary numbers have no sign.  A moment is a date, a
time of day, or both; seconds may be left out.
-/
import MockServer.Number.Reading
import MockServer.Text.Hex
import MockServer.Toml.Value

namespace MockServer.Toml

/-! ### Numbers -/

/-- Digits of a kind without their underscores, each of which stands between two digits. -/
def plainDigits? (isDigit : Char → Bool) : List Char → Option (List Char)
  | [] => none
  | [c] => if isDigit c then some [c] else none
  | c :: '_' :: r =>
    if isDigit c then (plainDigits? isDigit r).map (c :: ·) else none
  | c :: r =>
    if isDigit c then (plainDigits? isDigit r).map (c :: ·) else none

/-- The number of digits in a base. -/
def numberIn? (base : Nat) (s : List Char) : Option Nat := do
  let inBase (c : Char) : Bool := (Text.hexValue? c).any (· < base)
  let digits ← plainDigits? inBase s
  digits.foldlM (fun n c => (Text.hexValue? c).map (n * base + ·)) 0

/-- Decimal digits without a zero in front of others. -/
def wholeDigits? (s : List Char) : Option (List Char) :=
  (plainDigits? Char.isDigit s).filter fun ds => ds.head? != some '0' || ds.length == 1

/-- Reads an integer. -/
def integer? (s : List Char) : Option Int :=
  match s with
  | '0' :: 'x' :: r => (numberIn? 16 r).map Int.ofNat
  | '0' :: 'o' :: r => (numberIn? 8 r).map Int.ofNat
  | '0' :: 'b' :: r => (numberIn? 2 r).map Int.ofNat
  | _ =>
    let (negative, body) := Number.splitSign s
    (wholeDigits? body).map fun ds =>
      if negative then -(Number.number ds : Int) else Number.number ds

/-- Reads the fraction and the exponent of a number: their digits without underscores. -/
def fractionAndExponent? (s : List Char) : Option (List Char) := do
  let (point, rest) ← (match s with
    | '.' :: r => do
      let part := r.takeWhile fun c => c.isDigit || c == '_'
      let digits ← plainDigits? Char.isDigit part
      some ('.' :: digits, r.drop part.length)
    | r => some ([], r))
  match rest with
  | [] => if point = [] then none else some point
  | e :: r =>
    if e = 'e' || e = 'E' then do
      let (negative, body) := Number.splitSign r
      let digits ← plainDigits? Char.isDigit body
      some (point ++ 'e' :: (if negative then ['-'] else []) ++ digits)
    else none

/-- Reads a number with a fraction or an exponent, or one that is not finite. -/
def float? (s : List Char) : Option FloatValue :=
  let (negative, body) := Number.splitSign s
  if body = "inf".toList then some (.infinite negative)
  else if body = "nan".toList then some .notANumber
  else do
    let whole := body.takeWhile fun c => c.isDigit || c == '_'
    let digits ← wholeDigits? whole
    let rest ← fractionAndExponent? (body.drop whole.length)
    match Number.binary64? ((if negative then ['-'] else []) ++ digits ++ rest) with
    | some x => some (.finite x)
    | none => some (.infinite negative)

/-! ### Moments -/

/-- Reads digits of a fixed number, and what follows. -/
def fixedDigits? (count : Nat) (s : List Char) : Option (Nat × List Char) :=
  let ds := s.take count
  if ds.length = count ∧ ds.all Char.isDigit then some (Number.number ds, s.drop count) else none

/-- Passes a character. -/
def pass? (c : Char) : List Char → Option (List Char)
  | x :: r => if x = c then some r else none
  | [] => none

/-- The number of days of a month. -/
def daysIn (year month : Nat) : Nat :=
  if month = 2 then
    if year % 4 = 0 ∧ (year % 100 ≠ 0 ∨ year % 400 = 0) then 29 else 28
  else if month = 4 ∨ month = 6 ∨ month = 9 ∨ month = 11 then 30
  else 31

/-- Reads a date. -/
def date? (s : List Char) : Option (List Char) := do
  let (year, r) ← fixedDigits? 4 s
  let (month, r) ← fixedDigits? 2 (← pass? '-' r)
  let (day, r) ← fixedDigits? 2 (← pass? '-' r)
  if 1 ≤ month ∧ month ≤ 12 ∧ 1 ≤ day ∧ day ≤ daysIn year month then some r else none

/-- Reads hours and minutes. -/
def hourAndMinute? (s : List Char) : Option (List Char) := do
  let (hour, r) ← fixedDigits? 2 s
  let (minute, r) ← fixedDigits? 2 (← pass? ':' r)
  if hour ≤ 23 ∧ minute ≤ 59 then some r else none

/-- Reads seconds behind a colon, with their fraction. -/
def seconds? (s : List Char) : Option (List Char) := do
  let (second, r) ← fixedDigits? 2 s
  if 60 < second then none
  else match r with
    | '.' :: t =>
      let rest := t.dropWhile Char.isDigit
      if rest.length = t.length then none else some rest
    | r => some r

/-- Reads a time of day. -/
def time? (s : List Char) : Option (List Char) := do
  let r ← hourAndMinute? s
  match r with
  | ':' :: t => seconds? t
  | r => some r

/-- Reads what may follow a time: nothing, or its distance from the standard time. -/
def isOffset (s : List Char) : Bool :=
  match s with
  | [] => true
  | c :: r =>
    if c = 'Z' || c = 'z' then r.isEmpty
    else if c = '+' || c = '-' then hourAndMinute? r == some []
    else false

/-- Is a text a moment? -/
def isMoment (s : List Char) : Bool :=
  match date? s with
  | some [] => true
  | some (c :: r) =>
    (c == 'T' || c == 't' || c == ' ') && (time? r).any isOffset
  | none => time? s == some []

/-- The value of a scalar without quotes. -/
def scalar? (s : List Char) : Option Value :=
  if s = "true".toList then some (.boolean true)
  else if s = "false".toList then some (.boolean false)
  else match integer? s with
    | some z =>
      if -0x80000000000000000000000000000000 ≤ z ∧ z < 0x100000000000000000000000000000000 then
        some (.integer z)
      else none
    | none => match float? s with
      | some x => some (.float x)
      | none => if isMoment s then some .moment else none

end MockServer.Toml
