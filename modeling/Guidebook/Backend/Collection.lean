import Guidebook.Backend.Basic

/-!
# Collections

A collection is a source over a fixed list of entities with distinct ids.  It
answers a request for details in the order of the request, an id that is
requested twice twice, and leaves out the ids that it does not know.
-/

namespace Guidebook

/-- A named collection: the summaries in order, and the entities by their ids. -/
structure Collection where
  name : String
  summaries : List Summary := []
  entities : List (String × Entity) := []

namespace Collection

/-- Add an entity, unless there is one with its id. -/
def add (collection : Collection) (entity : Entity) : Collection :=
  match collection.entities.lookup entity.id with
  | some _ => collection
  | none =>
      { collection with
        summaries := collection.summaries ++ [entity.summary]
        entities := Keyed.insert entity.id entity collection.entities }

/-- The collection of some entities: of several with one id the first. -/
def ofEntities (name : String) (entities : List Entity) : Collection :=
  entities.foldl add { name := name }

/-- The entity with an id. -/
def entity? (collection : Collection) (id : String) : Option Entity :=
  collection.entities.lookup id

/-- The collection as a source. -/
def source (collection : Collection) : Source where
  name := collection.name
  summary := .complete collection.summaries
  details ids := .complete (ids.filterMap collection.entity?)

end Collection

/-- The source that fails at every request, always with the same items. -/
def Source.failing (name : String) (cause : Error) (summaries : List Summary)
    (entities : List Entity) : Source where
  name := name
  summary := .failed summaries cause
  details _ := .failed entities cause

end Guidebook
