/-
Filling in words.

The parts of a word become texts, and what was not quoted is split into fields at blanks.  The
words of a choice become patterns.  How the output of a command is got is a parameter.

This stands for the machine's shell, on which tools are started; the program has no such code.
-/
import MockServer.Shell.Arithmetic
import MockServer.Shell.Reader
import MockServer.Shell.State

namespace MockServer.Shell

/-- How the output of a command is got. -/
abbrev Substitute := List Char → State → List Char × State

/-! ### Patterns -/

/-- A text whose characters know whether they were quoted. -/
abbrev Pattern := List (Char × Bool)

/-- Does a pattern match a text?  A star stands for any text and a question mark for any
character, where they were not quoted. -/
def Pattern.matches? : Pattern → List Char → Bool
  | [], s => s.isEmpty
  | ('*', false) :: rest, s => (List.range (s.length + 1)).any fun n => matches? rest (s.drop n)
  | ('?', false) :: rest, _ :: s => matches? rest s
  | (p, _) :: rest, c :: s => c = p && matches? rest s
  | _ :: _, [] => false

namespace Expansion

/-- What a part stands for: one text, or as many as there are arguments. -/
inductive Value where
  | text (s : List Char)
  | items (list : List String)

/-- The value as one text. -/
def Value.joined : Value → List Char
  | .text s => s
  | .items list => (" ".intercalate list).toList

/-- The word in place of a missing value or in a sum. -/
def argumentWord (text : List Char) : Word :=
  match (Reader.doubleQuoted (text.length + 2)).run (text ++ ['"']) with
  | some (word, []) => word
  | _ => [.literal text true]

mutual

/-- The value of a part. -/
def partValue (sub : Substitute) : (fuel : Nat) → Part → State → Value × State
  | 0, _, state => (.text [], state)
  | _ + 1, .literal text _, state => (.text text, state)
  | _ + 1, .output text _, state =>
    let (s, state) := sub text state
    (.text s, state)
  | fuel + 1, .arithmetic text _, state =>
    let (s, state) := wordText sub fuel (argumentWord text) state
    let named (name : String) : Int :=
      ((state.parameter? name).bind fun v => Arithmetic.integer? v.toList).getD 0
    (.text (((Arithmetic.evaluate? named s).map Number.integer).getD []), state)
  | fuel + 1, .parameter name instead quoted, state =>
    let value := (state.parameter? name).getD ""
    match instead with
    | none =>
      -- Between quotation marks a star joins the arguments to one text.
      if name = "@" || (name = "*" && !quoted) then (.items state.arguments, state)
      else (.text value.toList, state)
    | some text =>
      if value = "" then
        let (s, state) := wordText sub fuel (argumentWord text) state
        (.text s, state)
      else (.text value.toList, state)

/-- The text of a word. -/
def wordText (sub : Substitute) : (fuel : Nat) → Word → State → List Char × State
  | 0, _, state => ([], state)
  | _ + 1, [], state => ([], state)
  | fuel + 1, part :: rest, state =>
    let (value, state) := partValue sub fuel part state
    let (text, state) := wordText sub fuel rest state
    (value.joined ++ text, state)

end

/-- The pattern of a word. -/
def wordPattern (sub : Substitute) (fuel : Nat) : Word → State → Pattern × State
  | [], state => ([], state)
  | part :: rest, state =>
    let (value, state) := partValue sub fuel part state
    let (pattern, state) := wordPattern sub fuel rest state
    (value.joined.map (·, part.isQuoted) ++ pattern, state)

/-- Does one of some patterns match a text? -/
def matchesAny (sub : Substitute) (fuel : Nat) (text : List Char) :
    List Word → State → Bool × State
  | [], state => (false, state)
  | word :: rest, state =>
    let (pattern, state) := wordPattern sub fuel word state
    if pattern.matches? text then (true, state) else matchesAny sub fuel text rest state

/-- The state after some assignments, and the one in which only their words were filled in. -/
def assigned (sub : Substitute) (fuel : Nat) : List (String × Word) → State → State × State
  | [], state => (state, state)
  | (name, word) :: rest, state =>
    let (text, state) := wordText sub fuel word state
    let (after, before) := assigned sub fuel rest (state.set name (String.ofList text))
    (after, { before with environment := state.environment })

/-! ### Fields -/

/-- Fields that are complete, the last one in front, and the field that is open. -/
structure Fields where
  complete : List (List Char)
  current : Option (List Char)

namespace Fields

/-- Ends the open field. -/
def close (fields : Fields) : Fields :=
  match fields.current with
  | some field => ⟨field :: fields.complete, none⟩
  | none => fields

/-- Adds a text that is not split. -/
def addWhole (fields : Fields) (s : List Char) : Fields :=
  { fields with current := some (fields.current.getD [] ++ s) }

/-- Adds a text that is split at blanks. -/
def addSplit (fields : Fields) (s : List Char) : Fields :=
  s.foldl (fun fields c =>
    if c = ' ' || c = '\t' || c = '\n' then fields.close else fields.addWhole [c]) fields

/-- Adds texts that become fields of their own. -/
def addItems (fields : Fields) (quoted : Bool) : List String → Fields
  | [] => fields
  | item :: rest =>
    let added := if quoted then fields.addWhole item.toList else fields.addSplit item.toList
    if rest = [] then added else addItems added.close quoted rest

/-- Adds the value of a part. -/
def add (fields : Fields) (part : Part) : Value → Fields
  | .items list => fields.addItems part.isQuoted list
  | .text s =>
    match part with
    | .literal _ _ => fields.addWhole s
    | _ => if part.isQuoted then fields.addWhole s else fields.addSplit s

end Fields

/-- The fields of a word behind others. -/
def fieldsFrom (sub : Substitute) (fuel : Nat) (fields : Fields) : Word → State → Fields × State
  | [], state => (fields, state)
  | part :: rest, state =>
    let (value, state) := partValue sub fuel part state
    fieldsFrom sub fuel (fields.add part value) rest state

/-- The arguments that words stand for. -/
def arguments (sub : Substitute) (fuel : Nat) : List Word → State → List String × State
  | [], state => ([], state)
  | word :: rest, state =>
    let (fields, state) := fieldsFrom sub fuel ⟨[], none⟩ word state
    let (others, state) := arguments sub fuel rest state
    (fields.close.complete.reverse.map String.ofList ++ others, state)

end Expansion
end MockServer.Shell
