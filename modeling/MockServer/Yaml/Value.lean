/-
The JSON value of a YAML text.

Aliases are replaced by the nodes for which they stand.  Collections nest at most 128
deep, and aliases are followed at most a hundred times for each part of the document, so
that a short text has no huge value.  A key is the text of a scalar, whatever its tag; of
entries with one key the last one counts, in the place of the first.
-/
import MockServer.Json.Reader
import MockServer.Yaml.Document
import MockServer.Yaml.Lexer
import MockServer.Yaml.PlainValue

namespace MockServer.Yaml

/-- What is known while a document is valued: its anchored nodes, and how often aliases may be
followed. -/
structure Surroundings where
  table : List (Nat × Node)
  limit : Nat

/-- A step of valuing: it counts the aliases that were followed, and may fail. -/
abbrev Valuing (α : Type) := StateT Nat Option α

/-- The node for which a node stands: itself, or that of an alias. -/
def Node.target (s : Surroundings) (node : Node) : Valuing Node :=
  match node with
  | .alias number => do
    let followed ← get
    set (followed + 1)
    -- Aliases inside aliases would make a short text a huge value.
    if s.limit < followed + 1 then failure
    else match Node.nodeOf? s.table number with
      | some node => pure node
      | none => failure
  | node => pure node

/-- The text of a key. -/
def keyText (s : Surroundings) (node : Node) : Valuing String := do
  match ← node.target s with
  | .scalar _ _ text => pure text
  | _ => failure

/-- May a collection with this tag have a value? -/
def isPlainCollection (ps : Properties) : Bool :=
  !(ps.tag.any isOwnTag)

/-- The value of an entry. -/
def entryValue (s : Surroundings) (inner : Node → Valuing Json) (entry : Node × Node) :
    Valuing (String × Json) := do
  let key ← keyText s entry.1
  let value ← inner entry.2
  pure (key, value)

/-- The value of a node in which `depth` collections may nest. -/
def Node.value (s : Surroundings) (depth : Nat) (node : Node) : Valuing Json := do
  match ← node.target s with
  | .scalar ps plain text => StateT.lift (scalarValue? ps.tag plain text)
  | .sequence ps items =>
    match depth with
    | 0 => failure
    | depth + 1 =>
      if isPlainCollection ps then do
        let values ← items.mapM (Node.value s depth)
        pure (.array values)
      else failure
  | .mapping ps entries =>
    match depth with
    | 0 => failure
    | depth + 1 =>
      if isPlainCollection ps then do
        let pairs ← entries.mapM (entryValue s (Node.value s depth))
        pure (Json.ofPairs pairs)
      else failure
  | .alias _ => failure

/-- How deep collections may nest. -/
def nestingLimit : Nat := 128

/-- The value of a document; a text without a document is null. -/
def documentValue? : Option Node → Option Json
  | none => some .null
  | some node =>
    ((node.value ⟨node.anchored, 100 * node.size⟩ nestingLimit).run 0).map Prod.fst

/-- The value of a text; `none` where the text is no single document or has no value. -/
def read? (text : String) : Option Json := do
  let tokens ← Token.scan text.toList
  let document ← Node.ofTokens? tokens
  documentValue? document

/-- What a parser says of the texts that it refuses, where it says anything.  Parsers differ in
their words, and nothing but the wording of faults depends on them. -/
class Wording where
  words? : String → Option String

/-- A parser without words. -/
instance (priority := low) wordless : Wording :=
  ⟨fun _ => none⟩

end MockServer.Yaml
