/-
Anchors, aliases, tags and directives.

An anchor and an alias are named by letters, digits, hyphens and underscores.  A tag is
a handle with a suffix, or stands in full between angle brackets.  Percent signs in tags
escape the bytes of a character.
-/
import MockServer.Number.Digits
import MockServer.Text.Bytes
import MockServer.Text.Hex
import MockServer.Yaml.QuotedScalar
import MockServer.Yaml.Token

namespace MockServer.Yaml

/-! ### Anchors and aliases -/

/-- A character that may follow a name. -/
def endsName (c : Char) : Bool :=
  c == '?' || c == ':' || c == ',' || c == ']' || c == '\x7d' || c == '%' || c == '@' || c == '\x60'

/-- Reads the name of an anchor or alias. -/
def readName (c : Cursor) : Option (String × Cursor) :=
  let (name, d) := c.span isWordChar
  if name ≠ [] && (d.atGap || d.sees endsName) then some (String.ofList name, d) else none

/-! ### Tags -/

/-- A character of a tag that stands for itself. -/
def isTagChar (verbatim : Bool) (c : Char) : Bool :=
  isWordChar c || [';', '/', '?', ':', '@', '&', '=', '+', '$', '.', '!', '~', '*', '\'', '(',
    ')'].contains c || (verbatim && [',', '[', ']'].contains c)

/-- The bytes of one character: how many there are after the first, which tells. -/
def followingBytes? (n : Nat) : Option Nat :=
  if n < 0x80 then some 0
  else if n / 32 = 6 then some 1
  else if n / 16 = 14 then some 2
  else if n / 8 = 30 then some 3
  else none

/-- The byte of a percent sign and two digits. -/
def escapedByte? : List Char → Option (Nat × List Char)
  | '%' :: a :: b :: r => (Text.hexNumber? [a, b]).map fun n => (n, r)
  | _ => none

/-- Reads further bytes of a character, each of which continues it. -/
def readFollowing : (count : Nat) → List UInt8 → List Char → Option (List UInt8 × List Char)
  | 0, bytes, s => some (bytes, s)
  | count + 1, bytes, s =>
    (escapedByte? s).bind fun (n, r) =>
      if n / 64 = 2 then readFollowing count (bytes ++ [n.toUInt8]) r else none

/-- Reads an escaped character of a tag. -/
def readTagEscape (s : List Char) : Option (List Char × List Char) := do
  let (n, r) ← escapedByte? s
  let count ← followingBytes? n
  let (bytes, r) ← readFollowing count [n.toUInt8] r
  some ((Text.decodeLossy bytes).toList, r)

/-- Reads the characters of a tag, and how many were taken. -/
def readTagChars (verbatim : Bool) :
    (fuel : Nat) → List Char → List Char → Option (List Char × List Char)
  | 0, text, s => some (text, s)
  | fuel + 1, text, s =>
    match s with
    | [] => some (text, [])
    | x :: r =>
      if x = '%' then
        (readTagEscape s).bind fun (cs, t) => readTagChars verbatim fuel (text ++ cs) t
      else if isTagChar verbatim x then readTagChars verbatim fuel (text ++ [x]) r
      else some (text, s)

/-- Reads the characters of a tag behind the text `leading`; at least one character must
stand there or lead. -/
def readSuffix (verbatim : Bool) (leading : List Char) (c : Cursor) : Option (String × Cursor) := do
  let (text, r) ← readTagChars verbatim c.rest.length [] c.rest
  let taken := c.rest.length - r.length
  if taken = 0 && leading = [] then none
  else some (String.ofList (leading.drop 1 ++ text), c.advance taken)

/-- Reads a handle: an exclamation mark, and a word with another one where they follow. -/
def readHandle (c : Cursor) : Option (List Char × Cursor) :=
  if c.at? '!' then
    let (word, d) := (c.advance 1).span isWordChar
    if d.at? '!' then some ('!' :: word ++ ['!'], d.advance 1) else some ('!' :: word, d)
  else none

/-- May a tag end here? -/
def endsTag (inFlow : Bool) (c : Cursor) : Bool :=
  (inFlow && c.at? ',') || c.atGap

/-- Reads a tag. -/
def readTag (inFlow : Bool) (c : Cursor) : Option (Token × Cursor) := do
  let (token, d) ← (
    if c.rest.take 2 = ['!', '<'] then do
      let (suffix, d) ← readSuffix true [] (c.advance 2)
      if d.at? '>' then some (Token.tag "" suffix, d.advance 1) else none
    else do
      let (handle, d) ← readHandle c
      if handle.length > 1 && handle.getLast? == some '!' then
        let (suffix, d) ← readSuffix false [] d
        some (Token.tag (String.ofList handle) suffix, d)
      else
        let (suffix, d) ← readSuffix false handle d
        if suffix = "" then some (Token.tag "" "!", d) else some (Token.tag "!" suffix, d))
  if endsTag inFlow d then some (token, d) else none

/-! ### Directives -/

/-- Reads a part of a version, at most nine digits. -/
def readVersionPart (c : Cursor) : Option (Nat × Cursor) :=
  let (digits, d) := c.span Char.isDigit
  if digits ≠ [] && digits.length ≤ 9 then some (Number.number digits, d) else none

/-- Reads a version. -/
def readVersion (c : Cursor) : Option (Token × Cursor) := do
  let (major, d) ← readVersionPart (c.skip isBlank)
  if d.at? '.' then
    let (minor, e) ← readVersionPart d.step
    some (.version major minor, e)
  else none

/-- Reads a handle and what it stands for. -/
def readHandleDirective (c : Cursor) : Option (Token × Cursor) := do
  let (handle, d) ← readHandle (c.skip isBlank)
  if handle.getLast? == some '!' && d.sees isBlank then
    let (leading, e) ← readSuffix true [] (d.skip isBlank)
    if e.atGap then some (.handle (String.ofList handle) leading, e) else none
  else none

/-- Reads a directive behind its percent sign. -/
def readDirective (c : Cursor) : Option (Token × Cursor) := do
  let (name, d) := c.span isWordChar
  if !d.atGap then none
  else
    let (token, e) ←
      if name = "YAML".toList then readVersion d
      else if name = "TAG".toList then readHandleDirective d
      else none
    some (token, ← e.finishLine?)

end MockServer.Yaml
