import Guidebook.Entity.Basic
import Guidebook.Time.Rfc3339

/-!
# Entities and summaries as JSON

The written form of an entity and of a summary, and its reading.  A field that
has its default value may be left out on reading, and the tier and the tags are
left out on writing when there are none.  An array of the field values in order
is read too; fields with a default may be missing at its end.
-/

namespace Guidebook

namespace Tier

/-- A tier from its name, or from an object that gives its name no value. -/
def ofJson? : Json → Option Tier
  | .str name => ofName? name
  | .obj [(name, .null)] => ofName? name
  | _ => none

/-- A tier that may be absent. -/
def optionOfJson? : Json → Option (Option Tier)
  | .null => some none
  | value => (ofJson? value).map some

end Tier

namespace Json

/-- A list of texts. -/
def texts? : Json → Option (List String)
  | .arr items => items.mapM text?
  | _ => none

/-- The fields of an object. -/
def fields? : Json → Option (List (String × Json))
  | .obj fields => some fields
  | _ => none

/-- The value that is read from a field that may be missing. -/
def orDefault {α : Type} (default : α) (read : Json → Option α) :
    Option Json → Option α
  | none => some default
  | some value => read value

end Json

namespace Summary

/-- The written form of a summary. -/
def toJson (summary : Summary) : Json :=
  .obj <|
    [("id", .str summary.id), ("type", .str summary.kind.name)] ++
    (summary.tier.map fun tier => ("tier", Json.str tier.name)).toList ++
    (if summary.tags.isEmpty then [] else [("tags", Json.strings summary.tags)]) ++
    [("description", .str summary.description)]

/-- A summary from the values of its fields. -/
def ofValues? (id kind tier tags description : Option Json) : Option Summary := do
  return {
    id := ← Json.text? (← id)
    kind := Kind.ofName (← Json.text? (← kind))
    tier := ← Json.orDefault none Tier.optionOfJson? tier
    tags := ← Json.orDefault [] Json.texts? tags
    description := ← Json.orDefault "" Json.text? description }

/-- The summary that a value writes. -/
def ofJson? : Json → Option Summary
  | .obj fields =>
      let field (key : String) := Json.lookup? key fields
      ofValues? (field "id") (field "type") (field "tier") (field "tags")
        (field "description")
  | .arr items =>
      if items.length ≤ 5 then
        ofValues? items[0]? items[1]? items[2]? items[3]? items[4]?
      else none
  | _ => none

end Summary

namespace Entity

/-- The written form of an entity, which does not hold its stamp. -/
def toFields (entity : Entity) : List (String × Json) :=
  [("id", .str entity.id), ("type", .str entity.kind.name)] ++
  (entity.tier.map fun tier => ("tier", Json.str tier.name)).toList ++
  [("body", .str entity.body), ("resourceLocator", .str entity.resourceLocator),
    ("metadata", .obj entity.metadata),
    ("lastUpdated", .str entity.lastUpdated.rfc3339)]

@[inherit_doc toFields]
def toJson (entity : Entity) : Json := .obj entity.toFields

/-- An entity from the values of its fields. -/
def ofValues? (id kind tier body resourceLocator metadata lastUpdated : Option Json) :
    Option Entity := do
  return {
    id := ← Json.text? (← id)
    kind := Kind.ofName (← Json.text? (← kind))
    tier := ← Json.orDefault none Tier.optionOfJson? tier
    body := ← Json.text? (← body)
    resourceLocator := ← Json.text? (← resourceLocator)
    metadata := ← Json.orDefault [] Json.fields? metadata
    lastUpdated := ← Moment.parse? (← Json.text? (← lastUpdated)) }

/-- The entity that a value writes; it has no stamp. -/
def ofJson? : Json → Option Entity
  | .obj fields =>
      let field (key : String) := Json.lookup? key fields
      ofValues? (field "id") (field "type") (field "tier") (field "body")
        (field "resourceLocator") (field "metadata") (field "lastUpdated")
  | .arr items =>
      if items.length ≤ 7 then
        ofValues? items[0]? items[1]? items[2]? items[3]? items[4]? items[5]? items[6]?
      else none
  | _ => none

end Entity

end Guidebook
