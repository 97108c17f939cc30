import Guidebook.Yaml.Node.Reader
import Guidebook.Yaml.Scalar.Typed

/-!
# The value of a document

A document means the value of its root, in which an alias means the value of its
node.  Collections are nested at most 128 deep, and the number of aliases that
are followed is bounded by the size of the document, so that no document means
too large a value.
-/

namespace Guidebook.Yaml

/-- The greatest depth of nested collections. -/
def deepest : Nat := 128

/-- Reading with a count of the aliases that have been followed. -/
abbrev Following := StateT Nat Option

namespace Document

/-- The greatest number of aliases that are followed. -/
def aliasLimit (document : Document) : Nat :=
  100 * (document.root.map Node.events).getD 1

/-- The node for which a node stands. -/
def follow (document : Document) : Node → Following Node
  | .alias slot => do
      let followed := (← get) + 1
      if document.aliasLimit < followed then failure
      set followed
      match document.anchored.lookup slot with
      | some node => return node
      | none => failure
  | node => return node

end Document

/-- The tag of a tagged value: it starts with a mark, which is left out where
something follows it. -/
def ownTag? (tag : Option String) : Option String := do
  match (← tag).toList with
  | ['!'] => return "!"
  | '!' :: name => return String.ofList name
  | _ => none

/-- The value with its tag. -/
def Value.withTag (tag : Option String) (value : Value) : Value :=
  match tag with
  | some tag => .tagged tag value
  | none => value

/-- The value of a scalar, with its tag if it is the text's own. -/
def scalarValue? (tag : Option String) (text : String) (style : Style) : Option Value :=
  match ownTag? tag with
  | some own =>
      (Scalar.value? none text style).map (.tagged own)
  | none => Scalar.value? tag text style

namespace Document

/-- The value of a node, in which collections may be nested to some depth. -/
def valueOf (document : Document) : (depth : Nat) → Node → Following Value
  | 0, node => do
      match ← document.follow node with
      | .scalar tag text style => scalarValue? tag text style
      | _ => failure
  | depth + 1, node => do
      match ← document.follow node with
      | .scalar tag text style => scalarValue? tag text style
      | .sequence tag items =>
          let items ← items.mapM (valueOf document depth)
          return Value.withTag (ownTag? tag) (.sequence items)
      | .mapping tag entries =>
          let entries ← entries.mapM fun (key, value) => do
            return (← valueOf document depth key, ← valueOf document depth value)
          return Value.withTag (ownTag? tag) (.mapping entries)
      | .alias _ => failure

/-- The value of a document, in which no mapping has a key twice; no document means
null. -/
def value? (document : Document) : Option Value := do
  match document.root with
  | none => return .null
  | some root =>
      let value ← (document.valueOf deepest root).run' 0
      guard value.hasDistinctKeys
      return value

end Document

/-- The value that a text writes. -/
def Value.parse? (text : String) : Option Value := do
  (← Document.parse? text).value?

end Guidebook.Yaml
