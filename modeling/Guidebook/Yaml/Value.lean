import Guidebook.Json.Value

/-!
# YAML values

What a YAML node means: a scalar has one of four types, and a node with a tag of
the text's own is a tagged value.  Two values are the same as
keys of a mapping when they are equal as values.
-/

namespace Guidebook.Yaml

/-- A YAML value. -/
inductive Value where
  | null
  | bool (value : Bool)
  | int (value : Int)
  | float (value : Binary64)
  | text (value : String)
  | sequence (items : List Value)
  | mapping (entries : List (Value × Value))
  | tagged (tag : String) (value : Value)
  deriving Repr, Inhabited

namespace Value

mutual

/-- Equality of values.  The order of a mapping does not count, and numbers are
compared as numbers. -/
def same : Value → Value → Bool
  | .null, .null => true
  | .bool left, .bool right => left == right
  | .int left, .int right => left == right
  | .float left, .float right => left.sameNumber right
  | .text left, .text right => left == right
  | .sequence left, .sequence right => sameItems left right
  | .mapping left, .mapping right => left.length == right.length && entriesIn right left
  | .tagged leftTag left, .tagged rightTag right => leftTag == rightTag && same left right
  | _, _ => false

/-- Equality of sequences. -/
def sameItems : List Value → List Value → Bool
  | [], [] => true
  | left :: lefts, right :: rights => same left right && sameItems lefts rights
  | _, _ => false

/-- All entries of a list are entries of a mapping. -/
def entriesIn (entries : List (Value × Value)) : List (Value × Value) → Bool
  | [] => true
  | (key, value) :: rest =>
      entries.any (fun entry => same key entry.1 && same value entry.2) &&
        entriesIn entries rest

end

mutual

/-- No mapping of a value has a key twice. -/
def hasDistinctKeys : Value → Bool
  | .sequence items => itemsHaveDistinctKeys items
  | .mapping entries => entriesHaveDistinctKeys entries
  | .tagged _ value => hasDistinctKeys value
  | .null | .bool _ | .int _ | .float _ | .text _ => true

/-- No mapping in some values has a key twice. -/
def itemsHaveDistinctKeys : List Value → Bool
  | [] => true
  | item :: rest => hasDistinctKeys item && itemsHaveDistinctKeys rest

/-- The keys of some entries are distinct, and no mapping in them has a key
twice. -/
def entriesHaveDistinctKeys : List (Value × Value) → Bool
  | [] => true
  | (key, value) :: rest =>
      !rest.any (fun entry => same key entry.1) && hasDistinctKeys key &&
        hasDistinctKeys value && entriesHaveDistinctKeys rest

end

/-- The value without its tag. -/
def untagged : Value → Value
  | .tagged _ value => untagged value
  | value => value

/-- The text of a value, whatever its tag. -/
def text? (value : Value) : Option String :=
  match value.untagged with
  | .text content => some content
  | _ => none

mutual

/-- A value as JSON.  A number that is not finite is no value.  Tagged values have
no written form, and the keys of a mapping have to be texts. -/
def toJson? : Value → Option Json
  | .null => some .null
  | .bool value => some (.bool value)
  | .int value => some (.int value)
  | .float value => some (if value.isFinite then .float value else .null)
  | .text value => some (.str value)
  | .sequence items => (itemsToJson? items).map .arr
  | .mapping entries => (fieldsOf? entries).map fun fields => .obj (Keyed.ofList fields)
  | .tagged .. => none

/-- Some values as JSON. -/
def itemsToJson? : List Value → Option (List Json)
  | [] => some []
  | item :: rest => do
      let item ← toJson? item
      let rest ← itemsToJson? rest
      return item :: rest

/-- The entries of a mapping as fields. -/
def fieldsOf? : List (Value × Value) → Option (List (String × Json))
  | [] => some []
  | (key, value) :: rest => do
      let key ← text? key
      let value ← toJson? value
      let rest ← fieldsOf? rest
      return (key, value) :: rest

end

end Value

end Guidebook.Yaml
