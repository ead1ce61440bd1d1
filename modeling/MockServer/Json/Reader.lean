/-
Reading JSON texts.

`read` reads one value with blanks around it.  Containers nest at most 127 deep.
A key that stands more than once in an object keeps its first place and takes its
last value.

Design notes: `fuel` bounds the number of steps by the length of the text.  A value
costs at most three steps and takes at least one character, so the fuel that `read`
gives is never used up.
-/
import MockServer.Json.Numeral

namespace MockServer.Json

/-- The blanks between the parts of a text. -/
def isGap (c : Char) : Bool :=
  c == ' ' || c == '\n' || c == '\t' || c == '\r'

/-- What follows the blanks. -/
def skipGap (s : List Char) : List Char :=
  s.dropWhile isGap

/-- The object with some members in order, the last value of a key winning. -/
def ofPairs (pairs : List (String × Json)) : Json :=
  .object (pairs.foldl (fun ms p => setMember p.1 p.2 ms) [])

/-- The number of containers that may stand inside one another. -/
def nestingLimit : Nat :=
  127

/-- Reads the letters of a word. -/
def readWord (value : Json) : (word : List Char) → List Char → Reading Json
  | [], s => .ok (value, s)
  | _ :: _, [] => .error (.reached .endOfValue [])
  | w :: ws, c :: r =>
    if c = w then readWord value ws r else .error (.next .expectedWord (c :: r))

/-- Reads a key and the colon behind it. -/
def readKey (s : List Char) : Except JsonFault (String × List Char) := do
  let (key, r) ← stringBody s
  match skipGap r with
  | [] => .error (.next .endOfObject [])
  | ':' :: t => .ok (String.ofList key, t)
  | t => .error (.next .expectedColon t)

mutual

/-- Reads a value after blanks; `depth` more containers may be opened. -/
def readValue (fuel depth : Nat) (s : List Char) : Except JsonFault (Json × List Char) :=
  match fuel with
  | 0 => .error (.next .endOfValue s)
  | fuel + 1 =>
    match skipGap s with
    | [] => .error (.next .endOfValue [])
    | '[' :: r =>
      match depth with
      | 0 => .error (.next .tooDeep ('[' :: r))
      | depth + 1 => do
        let (items, t) ← readItems fuel depth true r
        .ok (.array items, t)
    | '\x7b' :: r =>
      match depth with
      | 0 => .error (.next .tooDeep ('\x7b' :: r))
      | depth + 1 => do
        let (pairs, t) ← readMembers fuel depth true r
        .ok (ofPairs pairs, t)
    | '"' :: r => do
      let (cs, t) ← stringBody r
      .ok (.string (String.ofList cs), t)
    | '-' :: r => do
      let (n, t) ← readNumber true r
      .ok (.number n, t)
    | 'n' :: r => readWord .null "ull".toList r
    | 't' :: r => readWord (.bool true) "rue".toList r
    | 'f' :: r => readWord (.bool false) "alse".toList r
    | c :: r =>
      if c.isDigit then do
        let (n, t) ← readNumber false (c :: r)
        .ok (.number n, t)
      else .error (.next .expectedValue (c :: r))

/-- Reads the items of an array up to its bracket: all of them, or those behind a first. -/
def readItems (fuel depth : Nat) (first : Bool) (s : List Char) :
    Except JsonFault (List Json × List Char) :=
  match fuel with
  | 0 => .error (.next .endOfList s)
  | fuel + 1 =>
    match skipGap s with
    | [] => .error (.next .endOfList [])
    | ']' :: r => .ok ([], r)
    | c :: r =>
      if first then readItem fuel depth (c :: r)
      else if c = ',' then
        match skipGap r with
        -- Behind a comma an item has to come.
        | ']' :: t => .error (.next .trailingComma (']' :: t))
        | [] => .error (.next .endOfValue [])
        | t => readItem fuel depth t
      else .error (.next .expectedListCommaOrEnd (c :: r))

/-- Reads an item and those behind it. -/
def readItem (fuel depth : Nat) (s : List Char) :
    Except JsonFault (List Json × List Char) :=
  match fuel with
  | 0 => .error (.next .endOfList s)
  | fuel + 1 => do
    let (v, r) ← readValue fuel depth s
    let (vs, t) ← readItems fuel depth false r
    .ok (v :: vs, t)

/-- Reads the members of an object up to its brace: all of them, or those behind a first. -/
def readMembers (fuel depth : Nat) (first : Bool) (s : List Char) :
    Except JsonFault (List (String × Json) × List Char) :=
  match fuel with
  | 0 => .error (.next .endOfObject s)
  | fuel + 1 =>
    match skipGap s with
    | [] => .error (.next .endOfObject [])
    | '\x7d' :: r => .ok ([], r)
    | c :: r =>
      if first then
        if c = '"' then readMember fuel depth r
        else .error (.next .keyNotString (c :: r))
      else if c = ',' then
        match skipGap r with
        | '"' :: t => readMember fuel depth t
        -- Behind a comma a key has to come.
        | '\x7d' :: t => .error (.next .trailingComma ('\x7d' :: t))
        | [] => .error (.next .endOfValue [])
        | t => .error (.next .keyNotString t)
      else .error (.next .expectedObjectCommaOrEnd (c :: r))

/-- Reads a member behind the quote of its key, and the members behind it. -/
def readMember (fuel depth : Nat) (s : List Char) :
    Except JsonFault (List (String × Json) × List Char) :=
  match fuel with
  | 0 => .error (.next .endOfObject s)
  | fuel + 1 => do
    let (key, r) ← readKey s
    let (v, t) ← readValue fuel depth r
    let (ms, u) ← readMembers fuel depth false t
    .ok ((key, v) :: ms, u)

end

/-- Reads one value and nothing else. -/
def readList (s : List Char) : Except JsonFault Json := do
  let (v, r) ← readValue (3 * s.length + 3) nestingLimit s
  match skipGap r with
  | [] => .ok v
  | t => .error (.next .trailingCharacters t)

/-- Reads a text as one value. -/
def read (text : String) : Except JsonFault Json :=
  readList text.toList

end MockServer.Json
