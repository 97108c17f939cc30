import Guidebook.Config.Reader
import Guidebook.Yaml.Document

/-!
# Configurations in YAML

YAML as a notation for configurations.  Every scalar can be read as a text, whatever
it means.  A list or a record that is left out is empty.  The tags of what has a
known type do not count; elsewhere the tags of the text's own are refused.
-/

namespace Guidebook.Yaml

/-- A node in its document, with the depth to which collections may still be nested
there. -/
structure Place where
  document : Document
  node : Node
  depth : Nat

namespace Place

/-- The place of a node within a collection at a place. -/
def inside (place : Place) (node : Node) : Place :=
  { place with node, depth := place.depth - 1 }

/-- The node at a place, which is no alias. -/
def target (place : Place) : Reading Node := place.document.follow place.node

/-- A list or a record is left out. -/
def isLeftOut : Node → Bool
  | .scalar _ text style => text.isEmpty && style == .plain
  | _ => false

/-- The text of a scalar. -/
def text (place : Place) : Reading String := do
  match ← place.target with
  | .scalar _ text _ => return text
  | _ => failure

/-- The number that a plain scalar writes; a literal one has to have the tag of an
integer. -/
def number (place : Place) : Reading Nat := do
  match ← place.target with
  | .scalar tag text style =>
      if style = .plain ∨ (style = .literal ∧ tag = some "tag:yaml.org,2002:int") then
        Scalar.word? text.toList
      else failure
  | _ => failure

/-- The items of a list. -/
def items (place : Place) : Reading (List Place) := do
  let node ← place.target
  if isLeftOut node then return []
  match node with
  | .sequence _ items =>
      if place.depth = 0 then failure else return items.map place.inside
  | _ => failure

/-- A value that null leaves out. -/
def optional (place : Place) : Reading (Option Place) := do
  let node ← place.target
  match node with
  | .scalar tag text .plain =>
      match tag with
      | none =>
          if text.isEmpty || Scalar.isNull text then return none
          else return some { place with node }
      | some tag =>
          if tag = "tag:yaml.org,2002:null" then
            if Scalar.isNull text then return none else failure
          else return some { place with node }
  | _ => return some { place with node }

/-- The fields of a record. -/
def fields (place : Place) : Reading (Fields Place) := do
  let node ← place.target
  if isLeftOut node then return .named []
  match node with
  | .mapping _ entries =>
      if place.depth = 0 then failure
      else
        return .named (← entries.mapM fun (key, value) => do
          return (← (place.inside key).text, place.inside value))
  | _ => failure

mutual

/-- A value of any type; a tag of the text's own is refused. -/
def looseOf? : Value → Option Loose
  | .text value => some (.text value)
  | .bool value => some (.truth value)
  | .int value => some (if 0 ≤ value then .number value.toNat else .other)
  | .mapping entries => (looseFieldsOf? entries).map .record
  | .sequence items => if looseItemsOf? items then some .other else none
  | .null | .float _ => some .other
  | .tagged .. => none

/-- No value of a list has a tag of the text's own. -/
def looseItemsOf? : List Value → Bool
  | [] => true
  | item :: rest => (looseOf? item).isSome && looseItemsOf? rest

/-- The fields of a record of any type. -/
def looseFieldsOf? : List (Value × Value) → Option (List (Loose × Loose))
  | [] => some []
  | (key, value) :: rest => do
      let key ← looseOf? key
      let value ← looseOf? value
      let rest ← looseFieldsOf? rest
      return (key, value) :: rest

end

/-- A value of any type. -/
def loose (place : Place) : Reading Loose := do
  looseOf? (← place.document.valueOf place.depth place.node)

end Place

instance : Markup Place where
  text := Place.text
  number := Place.number
  items := Place.items
  optional := Place.optional
  fields _ := Place.fields
  loose := Place.loose

end Guidebook.Yaml

namespace Guidebook.Config

/-- The configuration that a YAML text writes. -/
def ofYaml? (text : String) : Option Config := do
  let document ← Yaml.Document.parse? text
  let root : Yaml.Place := ⟨document, document.root.getD .empty, Yaml.deepest⟩
  ofMarkup? root

end Guidebook.Config
