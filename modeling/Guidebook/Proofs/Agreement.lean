import Guidebook.Backend.Collection
import Guidebook.Proofs.Lifecycle
import Guidebook.Proofs.Merge
import Guidebook.Proofs.Publication

/-!
# Summaries and details agree

A backend answers requests for summaries and for details separately, from separate
collections and, in an aggregate, by separate merges.  This module shows that the
two agree on every backend that is composed of collections, of indexes at any time
of their lives, and of aggregates: the entity that is served under an id is the one
whose summary is listed under it.
-/

namespace Guidebook

/-! ## Collections -/

namespace Collection

open Backend (Tracks keepFirst)

/-- A collection to which some entities were added holds the first of each id. -/
structure Follows (added : List Entity) (collection : Collection) : Prop where
  summaries : collection.summaries = (keepFirst (·.id) [] added).map (·.summary)
  entities : Tracks (·.id) (fun entity => entity) added collection.entities

theorem Follows.add {added : List Entity} {collection : Collection}
    (follows : collection.Follows added) (entity : Entity) :
    (collection.add entity).Follows (added ++ [entity]) := by
  unfold Collection.add
  split
  · next held present =>
      exact {
        summaries := by
          rw [follows.entities.keepFirst_pass entity present]
          exact follows.summaries
        entities := follows.entities.pass entity present }
  · next absent =>
      exact {
        summaries := by
          rw [follows.entities.keepFirst_enter entity absent, List.map_append,
            ← follows.summaries]
          rfl
        entities := follows.entities.enter entity absent }

theorem Follows.foldl_add {added : List Entity} {collection : Collection}
    (follows : collection.Follows added) (entities : List Entity) :
    (entities.foldl Collection.add collection).Follows (added ++ entities) := by
  induction entities generalizing added collection with
  | nil => simpa using follows
  | cons entity rest ih => simpa using ih (follows.add entity)

theorem ofEntities_follows (name : String) (entities : List Entity) :
    (ofEntities name entities).Follows entities := by
  have start : Follows [] { name := name } := ⟨rfl, .nil⟩
  exact start.foldl_add entities

end Collection

namespace Backend

/-! ## Agreement -/

/-- The summaries and the details of a backend agree. -/
structure Agrees (backend : Backend) : Prop where
  distinct : (backend.summary.items.map (·.id)).Nodup
  /-- The first entity that is served under a requested id is the one that is listed. -/
  found : ∀ ids, ∀ id ∈ ids,
    ((backend.details ids).items.find? (·.id == id)).map (·.summary) =
      backend.summary.items.find? (·.id == id)
  requested : ∀ ids, ∀ entity ∈ (backend.details ids).items, entity.id ∈ ids
  listed : ∀ ids, ∀ entity ∈ (backend.details ids).items,
    entity.summary ∈ backend.summary.items

/-- A source agrees with itself if it looks up entities under the ids of the summaries
that it lists, and serves what it finds under the requested ids in some order. -/
theorem Agrees.of_lookup {source : Source} {summaries : List Summary}
    (entity? : String → Option Entity) (order : List String → List String)
    (keyed : ∀ id entity, entity? id = some entity → entity.id = id)
    (distinct : (summaries.map (·.id)).Nodup)
    (linked : ∀ id, (entity? id).map (·.summary) = summaries.find? (·.id == id))
    (mem_order : ∀ ids id, id ∈ order ids ↔ id ∈ ids)
    (summary : source.summary = .complete summaries)
    (details : ∀ ids, source.details ids = .complete ((order ids).filterMap entity?)) :
    Agrees (.leaf source) where
  distinct := by
    rw [Backend.summary, summary]
    exact distinct
  found := by
    intro ids id member
    rw [Backend.summary, Backend.details, summary, details]
    change (((order ids).filterMap entity?).find? _).map _ = summaries.find? _
    rw [find?_filterMap keyed ((mem_order ids id).mpr member), linked]
  requested := by
    intro ids entity served
    rw [Backend.details, details] at served
    obtain ⟨id, member, held⟩ := List.mem_filterMap.mp served
    rw [keyed id entity held]
    exact (mem_order ids id).mp member
  listed := by
    intro ids entity served
    rw [Backend.details, details] at served
    obtain ⟨id, -, held⟩ := List.mem_filterMap.mp served
    have listed := linked id
    rw [held] at listed
    rw [Backend.summary, summary]
    exact List.mem_of_find?_eq_some listed.symm

theorem agrees_collection (name : String) (entities : List Entity) :
    Agrees (.leaf (Collection.ofEntities name entities).source) := by
  have follows := Collection.ofEntities_follows name entities
  have lookup (id : String) : (Collection.ofEntities name entities).entity? id =
      entities.find? (·.id == id) := by
    simpa [Collection.entity?] using follows.entities id
  refine Agrees.of_lookup (Collection.ofEntities name entities).entity? (fun ids => ids) ?_ ?_ ?_
    (fun _ _ => Iff.rfl) rfl fun _ => rfl
  · intro id entity held
    rw [lookup] at held
    simpa using List.find?_some held
  · rw [follows.summaries, List.map_map]
    exact keepFirst_keys_nodup [] entities
  · intro id
    have kept : (keepFirst (·.id) [] entities).find? (·.id == id) =
        entities.find? (·.id == id) := find?_keepFirst (by simp) entities
    rw [lookup, follows.summaries, List.find?_map, ← kept]
    rfl

theorem agrees_index (around : Surroundings) (settings : IndexSettings)
    (operations : List Session.Operation) :
    Agrees (.leaf ((Session.start around settings).run operations).index.source) := by
  have consistent :
      Session.Consistent settings ((Session.start around settings).run operations).index :=
    Session.Consistent.run (.fresh settings) operations
  generalize ((Session.start around settings).run operations).index = index at consistent
  cases held : index.contents with
  | none =>
      have summary : index.source.summary = .failed [] .notInitialized := by
        simp only [Index.source, held]
      have details (ids : List String) :
          index.source.details ids = .failed [] .notInitialized := by
        simp only [Index.source, held]
      constructor <;> simp [Backend.summary, Backend.details, summary, details, Fetch.items]
  | some contents =>
      -- the files may have changed since the load; what it published accounts for those then
      obtain ⟨loadedAround, loads⟩ := consistent.loaded contents held
      obtain ⟨candidates, -, publishes⟩ := Index.exists_publishes_of_contentsOf loads
      refine Agrees.of_lookup contents.entity? (keepFirst id []) ?_ publishes.distinct
        publishes.map_lookup ?_ ?_ ?_
      · intro id entity found
        exact ((publishes.lookup_iff id entity).mp found).2
      · intro ids id
        rw [keepFirst_id, List.mem_eraseDups]
      · simp only [Index.source, held]
      · intro ids
        simp only [Index.source, held]
        rfl

/-! ## Aggregates -/

/-- A search among the items that members offer is a search in the members in turn. -/
theorem find?_offers {α : Type} (members : List Backend) (ask : Backend → Fetch α)
    (test : α → Bool) :
    ((offers ((memberIds members).zip (members.map ask))).find? fun offer =>
        test offer.2).map (·.2) =
      members.findSome? fun member => (ask member).items.find? test := by
  have second := map_snd_zip_memberIds members ask
  have perAnswer : (fun answer : String × Fetch α =>
      ((answer.2.items.map fun item => (answer.1, item)).find? fun offer =>
        test offer.2).map (·.2)) =
      (fun answer => answer.items.find? test) ∘ (·.2) := by
    funext answer
    simp [List.find?_map, Function.comp_def]
  rw [offers, List.find?_flatMap, List.map_findSome?, Function.comp_def, perAnswer,
    ← List.findSome?_map, second, List.findSome?_map]
  rfl

/-- Under each id an aggregate lists what the first member lists that lists anything. -/
theorem find?_summary_aggregate (name : String) (members : List Backend) (id : String) :
    (Backend.aggregate name members).summary.items.find? (·.id == id) =
      members.findSome? fun member => member.summary.items.find? (·.id == id) := by
  rw [summary, summaries_eq_map, find?_gather _ _ fun _ _ => rfl]
  exact find?_offers members summary (·.id == id)

/-- Under each id an aggregate serves what the first member serves that serves anything,
but for the stamp. -/
theorem find?_details_aggregate (name : String) (members : List Backend) (ids : List String)
    (id : String) :
    (((Backend.aggregate name members).details ids).items.find? (·.id == id)).map (·.summary) =
      members.findSome? fun member =>
        ((member.details ids).items.find? (·.id == id)).map (·.summary) := by
  let answers := (memberIds members).zip (members.map (details ids))
  have search : (gather "get_details" (·.id) Entity.stamp answers).items.find? (·.id == id) =
      ((offers answers).find? fun offer => offer.2.id == id).map
        fun offer => offer.2.stamp offer.1 :=
    find?_gather _ _ Entity.stamp_id id
  have unstamped : ((·.summary) ∘ fun offer : String × Entity => offer.2.stamp offer.1) =
      (·.summary) ∘ (·.2) := rfl
  have first := find?_offers members (details ids) (·.id == id)
  rw [details, detailsOfAll_eq_map, search, Option.map_map, unstamped, ← Option.map_map,
    first, List.map_findSome?]
  rfl

/-- An aggregate agrees with itself if its members do: under each id the same member is
the first to list a summary and to serve an entity. -/
theorem agrees_aggregate (name : String) {members : List Backend}
    (each : ∀ member ∈ members, Agrees member) : Agrees (.aggregate name members) := by
  have found (ids : List String) (id : String) (member : id ∈ ids) :
      (((Backend.aggregate name members).details ids).items.find? (·.id == id)).map
        (·.summary) =
        (Backend.aggregate name members).summary.items.find? (·.id == id) := by
    -- both searches are over the members, so it is enough that each member agrees
    rw [find?_details_aggregate, find?_summary_aggregate, ← List.head?_filterMap,
      ← List.head?_filterMap]
    congr 1
    apply List.filterMap_congr
    intro backend backendMem
    exact (each backend backendMem).found ids id member
  have requested (ids : List String) (entity : Entity)
      (served : entity ∈ ((Backend.aggregate name members).details ids).items) :
      entity.id ∈ ids := by
    obtain ⟨member, memberMem, offered, held, memberId, rfl⟩ :=
      exists_of_mem_details_aggregate served
    exact (each member memberMem).requested ids offered held
  exact {
    distinct := by
      rw [summary]
      exact keys_gather_nodup _ _ fun _ _ => rfl
    found := found
    requested := requested
    listed := by
      intro ids entity served
      have listed := found ids entity.id (requested ids entity served)
      rw [find?_eq_some_of_mem (details_aggregate_nodup name members ids) served] at listed
      exact List.mem_of_find?_eq_some listed.symm }

/-! ## Composed backends -/

/-- The backends that are composed of collections, of indexes after any operations, and
of aggregates. -/
inductive Composed : Backend → Prop where
  | collection (name : String) (entities : List Entity) :
      Composed (.leaf (Collection.ofEntities name entities).source)
  | index (around : Surroundings) (settings : IndexSettings)
      (operations : List Session.Operation) :
      Composed (.leaf ((Session.start around settings).run operations).index.source)
  | aggregate (name : String) {members : List Backend} (nonempty : members ≠ [])
      (each : ∀ member ∈ members, Composed member) : Composed (.aggregate name members)

theorem Composed.agrees {backend : Backend} (composed : Composed backend) : Agrees backend := by
  induction composed with
  | collection name entities => exact agrees_collection name entities
  | index around settings operations => exact agrees_index around settings operations
  | aggregate name nonempty each ih => exact agrees_aggregate name ih

/-- On a composed backend a requested id has an entity exactly when a summary is listed
for it; each entity is one that was requested, and the one summary listed for its id is
its own.  So every entity of the ids that a query selects has a summary that the query
accepts. -/
theorem details_iff_summary {backend : Backend} (composed : Composed backend)
    (ids : List String) :
    (∀ id ∈ ids, (∃ entity ∈ (backend.details ids).items, entity.id = id) ↔
      ∃ summary ∈ backend.summary.items, summary.id = id) ∧
    (∀ entity ∈ (backend.details ids).items, entity.id ∈ ids ∧
      backend.summary.items.filter (·.id == entity.id) = [entity.summary]) ∧
    ∀ query : Option Query.Node,
      ∀ entity ∈ (backend.details (Query.selectIds query backend.summary.items)).items,
        Query.accepts query entity.summary = true := by
  have agrees := composed.agrees
  refine ⟨?_, ?_, ?_⟩
  · intro id member
    have found := agrees.found ids id member
    constructor
    · rintro ⟨entity, served, rfl⟩
      exact ⟨entity.summary, agrees.listed ids entity served, rfl⟩
    · rintro ⟨summary, listed, rfl⟩
      rw [find?_eq_some_of_mem agrees.distinct listed] at found
      obtain ⟨entity, search, -⟩ := Option.map_eq_some_iff.mp found
      exact ⟨entity, List.mem_of_find?_eq_some search, by simpa using List.find?_some search⟩
  · intro entity served
    exact ⟨agrees.requested ids entity served,
      filter_key_eq_singleton agrees.distinct (agrees.listed ids entity served)⟩
  · intro query entity served
    have requested := agrees.requested _ entity served
    obtain ⟨summary, selected, sameId⟩ := List.mem_map.mp requested
    obtain ⟨listed, accepted⟩ := List.mem_filter.mp selected
    have same := eq_of_key_eq agrees.distinct listed (agrees.listed _ entity served) sameId
    rw [← same]
    exact accepted

/-- An aggregate in which two collections share an id, beside an index that is not loaded
and within it an aggregate of one that is. -/
def overlapping : Backend :=
  let document (id : String) (kind : Kind) (body : String) : Entity :=
    { id, kind, tier := none, body, resourceLocator := id, metadata := [],
      lastUpdated := Moment.epoch }
  .aggregate "all" [
    .leaf (Collection.ofEntities "team" [document "x" .recipe "team"]).source,
    .leaf ((Session.start Index.guideAround Index.guideSettings).run []).index.source,
    .aggregate "inner" [
      .leaf ((Session.start Index.guideAround Index.guideSettings).run [.load]).index.source,
      .leaf (Collection.ofEntities "personal"
        [document "x" .behavior "personal", document "y" .recipe "personal"]).source]]

theorem composed_overlapping : Composed overlapping := by
  refine .aggregate "all" (by simp) ?_
  simp only [List.mem_cons, List.not_mem_nil, or_false, forall_eq_or_imp, forall_eq]
  refine ⟨.collection _ _, .index _ _ [], .aggregate "inner" (by simp) ?_⟩
  simp only [List.mem_cons, List.not_mem_nil, or_false, forall_eq_or_imp, forall_eq]
  exact ⟨.index _ _ [.load], .collection _ _⟩

theorem details_iff_summary_overlapping :
    Composed overlapping ∧
      (∀ id ∈ ["x", "z"],
        (∃ entity ∈ (overlapping.details ["x", "z"]).items, entity.id = id) ↔
          ∃ summary ∈ overlapping.summary.items, summary.id = id) ∧
      ∀ entity ∈ (overlapping.details ["x", "z"]).items, entity.id ∈ ["x", "z"] ∧
        overlapping.summary.items.filter (·.id == entity.id) = [entity.summary] :=
  have agree := details_iff_summary composed_overlapping ["x", "z"]
  ⟨composed_overlapping, agree.1, agree.2.1⟩

end Backend

end Guidebook
