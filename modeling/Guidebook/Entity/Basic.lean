import Guidebook.Entity.Kind
import Guidebook.Json.Value
import Guidebook.Text.Blank
import Guidebook.Text.Split
import Guidebook.Time.Moment

/-!
# Entities and their summaries

An entity is a document in full, with the metadata of its front matter.  A
summary is what a query looks at: an entity's id, kind and tier, and the tags and
the description that its metadata declare.
-/

namespace Guidebook

/-- The fields of a front matter, in ascending order of their names. -/
abbrev Metadata := List (String × Json)

/-- What a query looks at in a document. -/
structure Summary where
  id : String
  kind : Kind
  tier : Option Tier := none
  tags : List String := []
  description : String := ""
  deriving DecidableEq, Repr, Inhabited

/-- A document in full. -/
structure Entity where
  id : String
  kind : Kind
  tier : Option Tier
  body : String
  resourceLocator : String
  metadata : Metadata
  lastUpdated : Moment
  /-- The backend that served the entity, once an aggregate has served it. -/
  originatingBackend : Option String := none
  deriving Repr, Inhabited

namespace Metadata

/-- The tags of a list written as one text: the pieces between its commas,
without blanks around them; blank pieces are no tags. -/
def tagPieces (text : String) : List String :=
  (((Text.pieces ',' text.toList).map Text.trim).filter (!·.isEmpty)).map String.ofList

/-- The tags that a front matter declares: the texts of a sequence, or the pieces
of one text. -/
def tags (metadata : Metadata) : List String :=
  match Json.lookup? "tags" metadata with
  | some (.arr items) => items.filterMap Json.text?
  | some (.str text) => tagPieces text
  | _ => []

/-- The description that a front matter declares, when it is a text. -/
def description? (metadata : Metadata) : Option String :=
  (Json.lookup? "description" metadata).bind Json.text?

end Metadata

namespace Entity

/-- The tags that the front matter declares. -/
def tags (entity : Entity) : List String := Metadata.tags entity.metadata

/-- The description that the front matter declares. -/
def description? (entity : Entity) : Option String :=
  Metadata.description? entity.metadata

/-- The summary of an entity. -/
def summary (entity : Entity) : Summary where
  id := entity.id
  kind := entity.kind
  tier := entity.tier
  tags := entity.tags
  description := entity.description?.getD ""

@[simp] theorem summary_id (entity : Entity) : entity.summary.id = entity.id := rfl

/-- The entity as served by a backend: a stamp that is there already stays. -/
def stamp (backend : String) (entity : Entity) : Entity :=
  { entity with originatingBackend := some (entity.originatingBackend.getD backend) }

@[simp] theorem stamp_id (backend : String) (entity : Entity) :
    (entity.stamp backend).id = entity.id := rfl

@[simp] theorem summary_stamp (backend : String) (entity : Entity) :
    (entity.stamp backend).summary = entity.summary := rfl

end Entity

end Guidebook
