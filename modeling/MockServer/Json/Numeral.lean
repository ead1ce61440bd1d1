/-
Reading JSON numbers.

Digits are collected as long as they fit 64 bits; digits before the point that no
longer fit count as powers of ten, and digits behind the point that no longer fit
are passed over.  What was collected is rounded once and scaled by a power of ten
with one more rounding, so a long numeral may end a unit beside the nearest number.
A numeral without a point and an exponent is an integer where it fits 64 bits.

Design notes: `collect` leaves a digit in front of the rest exactly when the next
digit does not fit.
-/
import MockServer.Json.StringReader
import MockServer.Number.Reading

namespace MockServer.Json

open Number (Binary64 digitValue)

/-- The number collected, how many digits were taken, and what is left. -/
structure Collected where
  value : Nat
  taken : Nat
  rest : List Char

/-- Collects digits behind `value` as long as the number stays below `bound`. -/
def collect (bound value : Nat) : List Char → Collected
  | [] => ⟨value, 0, []⟩
  | c :: r =>
    if c.isDigit && decide (value * 10 + digitValue c < bound) then
      let next := collect bound (value * 10 + digitValue c) r
      { next with taken := next.taken + 1 }
    else ⟨value, 0, c :: r⟩

/-- A rest that begins with a digit. -/
def startsWithDigit : List Char → Bool
  | [] => false
  | c :: _ => c.isDigit

/-- A rest that begins an exponent. -/
def startsExponent : List Char → Bool
  | [] => false
  | c :: _ => c == 'e' || c == 'E'

/-! ### Scaling -/

/-- The power of ten of an exponent from 0 to 308, rounded. -/
def powerOfTen (n : Nat) : Option Binary64 :=
  Binary64.ofDecimal false 1 n

/-- A number divided by a power of ten; zero where it is too small. -/
def shrunk (x : Binary64) (n : Nat) : Binary64 :=
  ((powerOfTen n).bind x.div).getD (Binary64.zero false)

/-- A number times a power of ten, the power of ten being taken in steps where it is beyond
the format: `none` where the product is too large. -/
def scaledBy (x : Binary64) (exponent : Int) : Option Binary64 :=
  if 0 ≤ exponent then
    if x.isZero then some x
    else if exponent ≤ 308 then (powerOfTen exponent.toNat).bind x.mul
    else none
  else if -308 ≤ exponent then some (shrunk x (-exponent).toNat)
  else if x.isZero then some x
  else scaledBy (shrunk x 308) (exponent + 308)
  termination_by (-exponent).toNat
  decreasing_by omega

/-- The number with a sign, digits and an exponent; the fault is placed at the rest. -/
def assembled (negative : Bool) (significand : Nat) (exponent : Int) (rest : List Char) :
    Reading JsonNumber :=
  match (Binary64.ofNat significand).bind (scaledBy · exponent) with
  | some x => .ok (.double (if negative then x.neg else x), rest)
  | none => .error (.reached .numberOutOfRange rest)

/-! ### Parts of a numeral -/

/-- The greatest exponent that is read as a number. -/
def exponentBound : Nat :=
  0x80000000

/-- Reads an exponent behind its letter, onto an exponent that the digits already have. -/
def readExponent (negative : Bool) (significand : Nat) (start : Int) (s : List Char) :
    Reading JsonNumber :=
  let (down, digits) := Number.splitSign s
  match digits with
  | [] => .error (.reached .endOfValue [])
  | c :: r =>
    if !c.isDigit then .error (.next .badNumber (c :: r))
    else
      let e := collect exponentBound (digitValue c) r
      -- An exponent of this size makes any number zero or too large.
      if startsWithDigit e.rest then
        if significand ≠ 0 ∧ !down then .error (.next .numberOutOfRange e.rest)
        else .ok (.double (.zero negative), e.rest.dropWhile Char.isDigit)
      else assembled negative significand (if down then start - e.value else start + e.value) e.rest

/-- Reads what may follow the digits: an exponent or nothing. -/
def readTail (negative : Bool) (significand : Nat) (exponent : Int) (s : List Char) :
    Reading JsonNumber :=
  if startsExponent s then readExponent negative significand exponent (s.drop 1)
  else assembled negative significand exponent s

/-- Reads the digits behind a point. -/
def readFraction (negative : Bool) (significand : Nat) (start : Int) (s : List Char) :
    Reading JsonNumber :=
  let f := collect 0x10000000000000000 significand s
  if startsWithDigit f.rest then
    readTail negative f.value (start - f.taken) (f.rest.dropWhile Char.isDigit)
  else if f.taken = 0 then
    .error (.next (if f.rest.isEmpty then .endOfValue else .badNumber) f.rest)
  else readTail negative f.value (start - f.taken) f.rest

/-- Reads the rest of a numeral whose digits before the point were collected, some of them
as powers of ten only. -/
def readScaled (negative : Bool) (significand : Nat) (exponent : Int) (s : List Char) :
    Reading JsonNumber :=
  match s with
  | '.' :: r => readFraction negative significand exponent r
  | r => readTail negative significand exponent r

/-- The number of a numeral without a point and an exponent: an integer where it fits.
Minus zero is no integer. -/
def wholeNumber (negative : Bool) (n : Nat) (rest : List Char) : Reading JsonNumber :=
  let z : Int := if negative then -n else n
  if h : FitsWord z ∧ (negative = true → n ≠ 0) then .ok (.integer z h.1, rest)
  else assembled negative n 0 rest

/-- Reads a numeral behind its sign. -/
def readNumber (negative : Bool) (s : List Char) : Reading JsonNumber :=
  match s with
  | [] => .error (.reached .endOfValue [])
  | c :: r =>
    if !c.isDigit then .error (.next .badNumber (c :: r))
    else
      let d := if c = '0' then ⟨0, 1, r⟩ else collect 0x10000000000000000 0 (c :: r)
      if startsWithDigit d.rest then
        -- No digit follows a leading zero; other digits that are left count as powers of ten.
        if c = '0' then .error (.next .badNumber d.rest)
        else
          readScaled negative d.value (d.rest.takeWhile Char.isDigit).length
            (d.rest.dropWhile Char.isDigit)
      else if startsExponent d.rest ∨ d.rest.head? = some '.' then
        readScaled negative d.value 0 d.rest
      else wholeNumber negative d.value d.rest

end MockServer.Json
