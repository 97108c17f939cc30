import Guidebook.Yaml.Token

/-!
# YAML nodes

A document is a tree of nodes.  An alias stands for an anchored node by the slot
of its anchor; the document knows which node holds a slot.
-/

namespace Guidebook.Yaml

/-- A node with its tag. -/
inductive Node where
  | alias (slot : Nat)
  | scalar (tag : Option String) (text : String) (style : Style)
  | sequence (tag : Option String) (items : List Node)
  | mapping (tag : Option String) (entries : List (Node × Node))
  deriving Repr, Inhabited

/-- A text with at most one document. -/
structure Document where
  /-- The root, when there is a document. -/
  root : Option Node
  /-- The node that holds each slot. -/
  anchored : List (Nat × Node) := []
  deriving Repr, Inhabited

namespace Node

/-- The scalar that stands where nothing is written. -/
def empty : Node := .scalar none "" .plain

mutual

/-- The number of events of a node: one for a scalar or an alias, and one at each
end of a collection. -/
def events : Node → Nat
  | .alias _ | .scalar .. => 1
  | .sequence _ items => eventsOfItems items + 2
  | .mapping _ entries => eventsOfEntries entries + 2

/-- The number of events of some nodes. -/
def eventsOfItems : List Node → Nat
  | [] => 0
  | item :: rest => events item + eventsOfItems rest

/-- The number of events of the entries of a mapping. -/
def eventsOfEntries : List (Node × Node) → Nat
  | [] => 0
  | (key, value) :: rest => events key + events value + eventsOfEntries rest

end

end Node

end Guidebook.Yaml
