/-
Which events are logged.

A filter is a list of directives.  A directive may name a target, which is the beginning
of an event's target, and a field that events have; it says from which level on the
events that it concerns are logged.  Of several directives that concern an event the most
specific one decides, and of equally specific ones the last.  Main statements:

* `admits_ofLevel` — a filter that is a level admits the events of at least that level;
* `admits_nil` — a filter without directives admits nothing.
-/
import MockServer.Log.Event
import MockServer.Number.Digits
import MockServer.Text.Ascii
import MockServer.Text.Blank

namespace MockServer.Log

/-- From which level on something is logged; `none` is above all levels. -/
abbrev Threshold := Option Level

/-- Does a level reach a threshold? -/
def Level.reaches (level : Level) : Threshold → Bool
  | some least => least.rank ≤ level.rank
  | none => false

/-- A field that a directive asks for, and whether it asks for a value as well. -/
structure FieldRequest where
  name : String
  valued : Bool
  deriving DecidableEq, Repr

/-- Has an event the field that is asked for?  A value cannot be told from outside. -/
def FieldRequest.isMet (event : Event) (request : FieldRequest) : Bool :=
  !request.valued && (request.name == "message" || event.fields.any (·.1 == request.name))

/-- A directive of a filter.  One that asks for a span concerns nothing that is told
outside of spans. -/
structure Directive where
  target : Option String
  inSpan : Bool
  field : Option FieldRequest
  least : Threshold
  deriving DecidableEq, Repr

namespace Directive

/-- The directive that sets a level for everything. -/
def general (least : Threshold) : Directive :=
  ⟨none, false, none, least⟩

/-- Does a directive concern an event? -/
def concerns (directive : Directive) (event : Event) : Bool :=
  !directive.inSpan
    && directive.target.all (fun t => t.toList.isPrefixOf event.target.toList)
    && directive.field.all (FieldRequest.isMet event)

/-- How specific a target is. -/
def targetWeight (directive : Directive) : Nat :=
  match directive.target with
  | some target => target.utf8ByteSize + 1
  | none => 0

/-- Is a directive at least as specific as another one that concerns the same event? -/
def covers (a b : Directive) : Bool :=
  -- A longer target is more specific than a shorter one, and any target than none.
  if a.targetWeight ≠ b.targetWeight then b.targetWeight < a.targetWeight
  else match a.field, b.field with
    | some f, some g => !(f.name < g.name)
    | none, some _ => false
    | _, none => true

/-! ### Texts -/

/-- The level that a word names: by name in any case, or by number from errors up. -/
def threshold? (word : List Char) : Option Threshold :=
  match Text.asciiLower (String.ofList word) with
  | "off" => some none
  | "error" => some (some .error)
  | "warn" => some (some .warn)
  | "info" => some (some .info)
  | "debug" => some (some .debug)
  | "trace" => some (some .trace)
  | _ =>
    let digits := match word with
      | '+' :: rest => rest
      | _ => word
    if digits ≠ [] && digits.all Char.isDigit then
      match Number.number digits with
      | 0 => some none
      | 1 => some (some .error)
      | 2 => some (some .warn)
      | 3 => some (some .info)
      | 4 => some (some .debug)
      | 5 => some (some .trace)
      | _ => none
    else none

/-- May a directive's text begin with a character? -/
def isOpening (c : Char) : Bool :=
  Text.isAsciiAlphanumeric c || 127 < c.toNat || c = '-' || c = ':' || c = '_'

/-- Reads the level behind the sign `=`; an empty one stands for all levels. -/
def withLevel? (directive : Directive) (word : List Char) : Option Directive :=
  if word = [] then some directive
  else (threshold? word).map fun least => { directive with least := least }

/-- Reads what follows a closed span. -/
def afterSpan? (directive : Directive) : List Char → Option Directive
  | [] => some directive
  | '=' :: word => withLevel? directive word
  | _ => none

/-- Reads a field request. -/
def fieldRequest? (text : List Char) : Option FieldRequest :=
  if text = [] then none
  else some ⟨String.ofList (text.takeWhile (· ≠ '=')), text.contains '='⟩

/-- Reads a directive from the opening bracket of its span on. -/
def span? (target : Option String) (text : List Char) : Option Directive :=
  let name := text.takeWhile fun c => c ≠ ']' && c ≠ '\x7b'
  match text.dropWhile fun c => c ≠ ']' && c ≠ '\x7b' with
  | ']' :: rest => afterSpan? ⟨target, true, none, some .trace⟩ rest
  | '\x7b' :: rest =>
    match rest.dropWhile (· ≠ '\x7d') with
    | '\x7d' :: ']' :: behind => do
      let field ← fieldRequest? (rest.takeWhile (· ≠ '\x7d'))
      afterSpan? ⟨target, name ≠ [], some field, some .trace⟩ behind
    | _ => none
  | _ => none

/-- Reads a directive.  A word alone is a level if it names one, and else a target of which
everything is logged. -/
def ofText? (text : List Char) : Option Directive :=
  match (Text.trimList text).head? with
  | none => none
  | some '[' => span? none ((Text.trimList text).drop 1)
  | some first =>
    if isOpening first then
      let word := text.takeWhile fun c => c ≠ '=' && c ≠ '['
      match text.dropWhile fun c => c ≠ '=' && c ≠ '[' with
      -- Nothing but the word: a level, or a target of which everything is logged.
      | [] =>
        match threshold? word with
        | some least => some (general least)
        | none => some ⟨some (String.ofList word), false, none, some .trace⟩
      | '=' :: level => withLevel? ⟨some (String.ofList word), false, none, some .trace⟩ level
      | _ :: span => span? (some (String.ofList word)) span
    else none

end Directive

/-- A list of directives. -/
abbrev Filter := List Directive

namespace Filter

/-- The filter that is a level. -/
def ofLevel (level : Level) : Filter :=
  [.general (some level)]

/-- The parts of a text between commas. -/
def splitCommas : List Char → List (List Char)
  | [] => [[]]
  | c :: rest =>
    if c = ',' then [] :: splitCommas rest
    else match splitCommas rest with
      | part :: parts => (c :: part) :: parts
      | [] => [[c]]

/-- Reads a filter: directives between commas, of which empty ones are passed over. -/
def ofText? (text : String) : Option Filter :=
  ((splitCommas text.toList).filter (· ≠ [])).mapM Directive.ofText?

/-- The directive that decides on an event. -/
def decisive? (filter : Filter) (event : Event) : Option Directive :=
  (filter.filter (·.concerns event)).foldl (fun best d =>
    match best with
    | some b => if d.covers b then some d else some b
    | none => some d) none

/-- Is an event logged? -/
def admits (filter : Filter) (event : Event) : Bool :=
  (filter.decisive? event).any fun d => event.level.reaches d.least

/-- A filter that is a level admits the events of at least that level. -/
theorem admits_ofLevel (level : Level) (event : Event) :
    (ofLevel level).admits event = decide (level.rank ≤ event.level.rank) := by
  simp [admits, decisive?, ofLevel, Directive.general, Directive.concerns, Level.reaches]

/-- A filter without directives admits nothing. -/
theorem admits_nil (event : Event) : admits [] event = false := rfl

end Filter
end MockServer.Log
