import Guidebook.Entity.Basic
import Guidebook.Error
import Guidebook.Keyed
import Guidebook.Query.Node

/-!
# Backends

A backend serves documents: the summaries of all of them, and the entities with
given ids.  A source answers by itself; an aggregate asks its members in order
and keeps, of several items with one id, the first.  Members are told apart by
identifiers, and an entity that no aggregate has stamped yet is stamped with the
identifier of the member that supplied it.
-/

namespace Guidebook

/-- The outcome of a request to a backend: all items, or a failure with the items
that were obtained nevertheless. -/
inductive Fetch (α : Type) where
  | complete (items : List α)
  | failed (partialItems : List α) (cause : Error)
  deriving Repr

namespace Fetch

variable {α : Type}

/-- The items obtained, whether or not the request failed. -/
def items : Fetch α → List α
  | .complete items => items
  | .failed partialItems _ => partialItems

/-- The error of a failed request. -/
def cause? : Fetch α → Option Error
  | .complete _ => none
  | .failed _ cause => some cause

/-- The outcome with some of its items left out. -/
def filter (keep : α → Bool) : Fetch α → Fetch α
  | .complete items => .complete (items.filter keep)
  | .failed partialItems cause => .failed (partialItems.filter keep) cause

@[simp] theorem items_filter (keep : α → Bool) (fetch : Fetch α) :
    (fetch.filter keep).items = fetch.items.filter keep := by
  cases fetch <;> rfl

/-- The wording of a failure that left some items. -/
def failureMessage (partialCount : Nat) (cause : Error) : String :=
  if partialCount = 0 then cause.message
  else s!"{cause.message} ({partialCount} partial results available)"

end Fetch

/-- A backend that answers by itself. -/
structure Source where
  name : String
  summary : Fetch Summary
  details : (ids : List String) → Fetch Entity

/-- A backend: a source, or an aggregate of backends. -/
inductive Backend where
  | leaf (source : Source)
  | aggregate (name : String) (members : List Backend)

namespace Backend

/-- The name of a backend. -/
def name : Backend → String
  | .leaf source => source.name
  | .aggregate name _ => name

/-- What holds of all sources, and of an aggregate if it holds of its members, holds of all
backends. -/
@[elab_as_elim, induction_eliminator]
theorem memberInduction {motive : Backend → Prop} (leaf : ∀ source, motive (.leaf source))
    (aggregate : ∀ name members, (∀ member ∈ members, motive member) →
      motive (.aggregate name members)) : ∀ backend, motive backend
  | .leaf source => leaf source
  | .aggregate name members =>
      aggregate name members fun member _ => memberInduction leaf aggregate member

/-- The identifiers of members with the given names, from place `index` on: the
name itself, or `backend_` and the place where the name is empty or already
taken. -/
def assignIds (taken : List String) (index : Nat) : (names : List String) → List String
  | [] => []
  | name :: names =>
      let id := if name.isEmpty || taken.contains name then s!"backend_{index}" else name
      id :: assignIds (id :: taken) (index + 1) names

theorem length_assignIds (taken : List String) (index : Nat) (names : List String) :
    (assignIds taken index names).length = names.length := by
  induction names generalizing taken index with
  | nil => rfl
  | cons name rest ih => simp [assignIds, ih]

/-- The identifiers of the members of an aggregate, in order. -/
def memberIds (members : List Backend) : List String :=
  assignIds [] 0 (members.map name)

@[simp] theorem length_memberIds (members : List Backend) :
    (memberIds members).length = members.length := by
  simp [memberIds, length_assignIds]

/-- The first item of each key, in order; `taken` holds the keys of the items
before. -/
def keepFirst {α : Type} (key : α → String) (taken : List String) : List α → List α
  | [] => []
  | item :: rest =>
      if taken.contains (key item) then keepFirst key taken rest
      else item :: keepFirst key (key item :: taken) rest

/-- A merge of answers on its way. -/
structure Merge (α : Type) where
  /-- The items that are kept. -/
  kept : List α := []
  /-- The member that supplied the kept item of each key. -/
  owners : List (String × String) := []
  /-- The members that failed, each with its error. -/
  failures : List (String × Error) := []

namespace Merge

variable {α : Type} (key : α → String) (mark : (memberId : String) → α → α)

/-- Keep an item of a member, with its mark, unless its key has an owner. -/
def offer (memberId : String) (merge : Merge α) (item : α) : Merge α :=
  match merge.owners.lookup (key item) with
  | some _ => merge
  | none =>
      { merge with
        kept := merge.kept ++ [mark memberId item]
        owners := Keyed.insert (key item) memberId merge.owners }

/-- Note the error of a member that failed. -/
def note (memberId : String) (merge : Merge α) : (cause? : Option Error) → Merge α
  | none => merge
  | some cause => { merge with failures := merge.failures ++ [(memberId, cause)] }

/-- Take over the answer of a member: its error, if there is one, and its items. -/
def take (merge : Merge α) (answer : String × Fetch α) : Merge α :=
  answer.2.items.foldl (offer key mark answer.1) (merge.note answer.1 answer.2.cause?)

/-- The answer that a merge comes to. -/
def answer (operation : String) (merge : Merge α) : Fetch α :=
  if merge.failures.isEmpty then .complete merge.kept
  else .failed merge.kept (.backendFailures operation merge.failures)

end Merge

/-- The answer to a request to all members, from their answers in order. -/
def gather {α : Type} (operation : String) (key : α → String)
    (mark : (memberId : String) → α → α) (answers : List (String × Fetch α)) : Fetch α :=
  (answers.foldl (Merge.take key mark) {}).answer operation

mutual

/-- The summaries of all documents of a backend. -/
def summary : Backend → Fetch Summary
  | .leaf source => source.summary
  | .aggregate _ members =>
      gather "get_summary" (·.id) (fun _ item => item)
        ((memberIds members).zip (summaries members))

/-- The summaries of each of some backends. -/
def summaries : List Backend → List (Fetch Summary)
  | [] => []
  | member :: rest => summary member :: summaries rest

end

mutual

/-- The entities of a backend with the given ids. -/
def details (ids : List String) : Backend → Fetch Entity
  | .leaf source => source.details ids
  | .aggregate _ members =>
      gather "get_details" (·.id) Entity.stamp
        ((memberIds members).zip (detailsOfAll ids members))

/-- The entities of each of some backends with the given ids. -/
def detailsOfAll (ids : List String) : List Backend → List (Fetch Entity)
  | [] => []
  | member :: rest => details ids member :: detailsOfAll ids rest

end

theorem summaries_eq_map (members : List Backend) : summaries members = members.map summary := by
  induction members with
  | nil => rw [summaries, List.map_nil]
  | cons member rest ih => rw [summaries, ih, List.map_cons]

theorem detailsOfAll_eq_map (ids : List String) (members : List Backend) :
    detailsOfAll ids members = members.map (details ids) := by
  induction members with
  | nil => rw [detailsOfAll, List.map_nil]
  | cons member rest ih => rw [detailsOfAll, ih, List.map_cons]

/-- The summaries that an optional query accepts. -/
def filteredSummary (backend : Backend) (query : Option Query.Node) : Fetch Summary :=
  backend.summary.filter (Query.accepts query)

/-- The name of an aggregate that is given none. -/
def aggregateName : String := "aggregate"

/-- The aggregate of some backends; there has to be one at least. -/
def aggregate? (name : String) (members : List Backend) : Except Error Backend :=
  if members.isEmpty then .error .noBackends else .ok (.aggregate name members)

end Backend

end Guidebook
