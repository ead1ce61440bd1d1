/-
The nodes of a YAML document.

A node is a scalar, a sequence, a mapping, or an alias for a node with an anchor.
Anchors are numbered by how many names were known when they were set, so an anchor
whose name is set again may share its number with the next new one; an alias stands
for the last node of its number.  Main statement: `nodeOf?_eq_some_mem` — an alias
stands for a node of the document.
-/
namespace MockServer.Yaml

/-- What may stand before a node: the number of its anchor, and its tag. -/
structure Properties where
  anchor : Option Nat
  tag : Option String
  deriving DecidableEq, Repr

/-- A node. -/
inductive Node where
  | scalar (properties : Properties) (plain : Bool) (text : String)
  | sequence (properties : Properties) (items : List Node)
  | mapping (properties : Properties) (entries : List (Node × Node))
  | alias (number : Nat)

namespace Node

/-- A scalar that was left out. -/
def empty : Node :=
  .scalar ⟨none, none⟩ true ""

/-- The number of a node's anchor, with the node. -/
def numbered (properties : Properties) (node : Node) : List (Nat × Node) :=
  (properties.anchor.map fun n => (n, node)).toList

mutual

/-- The nodes with an anchor, each with its number, in the order in which they begin. -/
def anchored : Node → List (Nat × Node)
  | .scalar ps plain text => numbered ps (.scalar ps plain text)
  | .sequence ps items => numbered ps (.sequence ps items) ++ anchoredItems items
  | .mapping ps entries => numbered ps (.mapping ps entries) ++ anchoredEntries entries
  | .alias _ => []

/-- The nodes with an anchor among some items. -/
def anchoredItems : List Node → List (Nat × Node)
  | [] => []
  | node :: rest => anchored node ++ anchoredItems rest

/-- The nodes with an anchor among some entries. -/
def anchoredEntries : List (Node × Node) → List (Nat × Node)
  | [] => []
  | (key, value) :: rest => anchored key ++ anchored value ++ anchoredEntries rest

end

/-- The node for which a number stands. -/
def nodeOf? (table : List (Nat × Node)) (number : Nat) : Option Node :=
  (table.reverse.find? (·.1 == number)).map Prod.snd

mutual

/-- The size of a node: one for a scalar or an alias, and two for the ends of a collection. -/
def size : Node → Nat
  | .scalar _ _ _ => 1
  | .sequence _ items => 2 + sizeItems items
  | .mapping _ entries => 2 + sizeEntries entries
  | .alias _ => 1

/-- The size of some items. -/
def sizeItems : List Node → Nat
  | [] => 0
  | node :: rest => size node + sizeItems rest

/-- The size of some entries. -/
def sizeEntries : List (Node × Node) → Nat
  | [] => 0
  | (key, value) :: rest => size key + size value + sizeEntries rest

end

theorem nodeOf?_eq_some_mem {table : List (Nat × Node)} {number : Nat} {node : Node}
    (h : nodeOf? table number = some node) : (number, node) ∈ table := by
  simp only [nodeOf?, Option.map_eq_some_iff] at h
  obtain ⟨⟨n, v⟩, hf, rfl⟩ := h
  have hn := List.find?_some hf
  simp only [beq_iff_eq] at hn
  subst hn
  exact List.mem_reverse.1 (List.mem_of_find?_eq_some hf)

end Node
end MockServer.Yaml
