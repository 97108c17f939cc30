import Guidebook.Command.Failure
import Guidebook.Command.Task
import Guidebook.Config.Basic
import Guidebook.Index.Basic

/-!
# Serving a configuration

The backends of a configuration are opened and loaded in order, and then they are
one aggregate that answers queries.  A task that asks for documents fails with the
first backend that cannot be loaded.  Requested ids are answered in the order of
the request: each document once, and each mention of an id that no backend serves
as missing.
-/

namespace Guidebook.Command

/-- The index of a backend, not loaded yet. -/
def openIndex (around : Surroundings) (config : Config) (backend : BackendConfig) :
    Except Failure Index :=
  match IndexSettings.ofConfig around config backend with
  | .ok settings => .ok (.fresh settings)
  | .error cause => .error (.settings backend.name cause)

/-- The index of a backend, loaded. -/
def loadIndex (around : Surroundings) (config : Config) (backend : BackendConfig) :
    Except Failure Index := do
  let index ← openIndex around config backend
  match index.load around with
  | (.ok _, index) => return index
  | (.error cause, index) => throw (.load index.settings.name cause)

/-- All backends of a configuration as one. -/
def serve (around : Surroundings) (config : Config) : Except Failure Backend := do
  let indexes ← config.backends.mapM (loadIndex around config)
  let members := indexes.map fun index => Backend.leaf index.source
  (Backend.aggregate? Backend.aggregateName members).mapError .plain

/-- Read the query of a question; a question may have none. -/
def Question.read [Query.Wildcard.Compiler] (question : Question) :
    Except Failure (Option Query.Node) :=
  match question.text with
  | none => .ok none
  | some text =>
      (Query.parse question.mode text).mapError fun error =>
        if error.isFilterError then .query text error else .plain error

/-- The summaries that a query accepts. -/
def chosenSummaries (backend : Backend) (query : Option Query.Node) : List Summary :=
  (backend.filteredSummary query).items

/-- The ids of the summaries that a query accepts. -/
def chosenIds (backend : Backend) (query : Option Query.Node) : List String :=
  Query.selectIds query backend.summary.items

/-- Listed ids after the chosen ones, without those that are there already. -/
def mergeIds (chosen : List String) : (listed : List String) → List String
  | [] => chosen
  | id :: listed =>
      if chosen.contains id then mergeIds chosen listed
      else mergeIds (chosen ++ [id]) listed

/-- The ids that are requested: without a query those that are listed. -/
def requestedIds (backend : Backend) (query : Option Query.Node) (listed : List String) :
    List String :=
  match query with
  | none => listed
  | some query => mergeIds (chosenIds backend (some query)) listed

/-- The answer to a request for documents in full. -/
structure Delivery where
  /-- The documents, in the order in which they are first requested. -/
  found : List Entity
  /-- The mentions of ids that no backend serves. -/
  missing : List String
  deriving Repr

/-- A delivery on its way. -/
structure Handover where
  /-- The entities that are left, by their ids. -/
  left : List (String × Entity)
  found : List Entity := []
  missing : List String := []

/-- Answer a mention of an id.  The entity is handed over if it is left; if it was handed
over before, nothing happens. -/
def Handover.answer (handover : Handover) (id : String) : Handover :=
  match handover.left.lookup id with
  | some entity =>
      { handover with
        left := Keyed.erase id handover.left
        found := handover.found ++ [entity] }
  | none =>
      if handover.found.any (·.id == id) then handover
      else { handover with missing := handover.missing ++ [id] }

/-- The entities of a request in its order; of several with one id the last counts. -/
def Delivery.ofEntities (requested : List String) (entities : List Entity) : Delivery :=
  let left := Keyed.ofList (entities.map fun entity => (entity.id, entity))
  let handover := requested.foldl Handover.answer { left }
  ⟨handover.found, handover.missing⟩

/-- The documents that are requested. -/
def deliver (backend : Backend) (requested : List String) : Delivery :=
  .ofEntities requested (backend.details requested).items

end Guidebook.Command
