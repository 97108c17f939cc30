import Guidebook.Backend.Collection
import Guidebook.Proofs.MemberIds
import Guidebook.Proofs.Merge
import Mathlib.Data.List.Flatten

/-!
# Nested aggregates

An aggregate of aggregates answers like the aggregate of all its sources, in the order
in which they are met from the first member to the last.  An inner aggregate keeps the
first item of each id of its own members, and the outer one the first of each id of
what is kept; both together keep what one aggregate over all sources keeps.  The stamps
agree too if no name occurs twice, because an inner aggregate stamps before an outer
one.
-/

namespace Guidebook

namespace Entity

/-- An entity without the stamp of a backend. -/
def unstamped (entity : Entity) : Entity := { entity with originatingBackend := none }

@[simp] theorem unstamped_id (entity : Entity) : entity.unstamped.id = entity.id := rfl

@[simp] theorem unstamped_stamp (backend : String) (entity : Entity) :
    (entity.stamp backend).unstamped = entity.unstamped := rfl

/-- A stamp on a stamped entity changes nothing. -/
theorem stamp_of_isSome {entity : Entity} (stamped : entity.originatingBackend.isSome)
    (backend : String) : entity.stamp backend = entity := by
  obtain ⟨origin, held⟩ := Option.isSome_iff_exists.mp stamped
  rw [stamp, held]
  cases entity
  cases held
  rfl

theorem stamp_isSome (backend : String) (entity : Entity) :
    (entity.stamp backend).originatingBackend.isSome := rfl

end Entity

namespace Backend

variable {α : Type} {key : α → String}

mutual

/-- The sources of a backend, from the first to the last. -/
def leaves : Backend → List Source
  | .leaf source => [source]
  | .aggregate _ members => leavesOfAll members

/-- The sources of some backends, one backend after the other. -/
def leavesOfAll : List Backend → List Source
  | [] => []
  | member :: rest => leaves member ++ leavesOfAll rest

end

mutual

/-- The names of all backends within a backend, at any depth. -/
def innerNames : Backend → List String
  | .leaf _ => []
  | .aggregate _ members => innerNamesOfAll members

/-- The names of some backends and of all backends within them. -/
def innerNamesOfAll : List Backend → List String
  | [] => []
  | member :: rest => name member :: innerNames member ++ innerNamesOfAll rest

end

/-- The aggregate of all sources of a backend. -/
def flat (name : String) (backend : Backend) : Backend :=
  .aggregate name (backend.leaves.map .leaf)

theorem leaves_leaf (source : Source) : (Backend.leaf source).leaves = [source] := by
  rw [leaves]

theorem leaves_aggregate (name : String) (members : List Backend) :
    (Backend.aggregate name members).leaves = members.flatMap leaves := by
  rw [leaves]
  induction members with
  | nil => rw [leavesOfAll, List.flatMap_nil]
  | cons member rest ih => rw [leavesOfAll, ih, List.flatMap_cons]

theorem innerNames_leaf (source : Source) : (Backend.leaf source).innerNames = [] := by
  rw [innerNames]

theorem innerNames_aggregate (name : String) (members : List Backend) :
    (Backend.aggregate name members).innerNames =
      members.flatMap fun member => member.name :: member.innerNames := by
  rw [innerNames]
  induction members with
  | nil => rw [innerNamesOfAll, List.flatMap_nil]
  | cons member rest ih => rw [innerNamesOfAll, ih, List.flatMap_cons]

@[simp] theorem leaves_flat (name : String) (backend : Backend) :
    (backend.flat name).leaves = backend.leaves := by
  rw [flat, leaves_aggregate, List.flatMap_map]
  simp [leaves_leaf]

@[simp] theorem innerNames_flat (name : String) (backend : Backend) :
    (backend.flat name).innerNames = backend.leaves.map (·.name) := by
  rw [flat, innerNames_aggregate, List.flatMap_map]
  simp [innerNames_leaf, Backend.name, List.map_eq_flatMap]

/-! ## Names -/

/-- All backends within a backend have names, and no two have the same. -/
structure WellNamed (backend : Backend) : Prop where
  distinct : backend.innerNames.Nodup
  nonempty : ∀ name ∈ backend.innerNames, name ≠ ""

theorem WellNamed.member {name : String} {members : List Backend} {member : Backend}
    (named : (Backend.aggregate name members).WellNamed) (held : member ∈ members) :
    member.WellNamed := by
  have within : (member.name :: member.innerNames).Sublist
      (Backend.aggregate name members).innerNames := by
    rw [innerNames_aggregate]
    exact List.sublist_flatten_of_mem (List.mem_map_of_mem held)
  have inner := (List.sublist_cons_self member.name member.innerNames).trans within
  exact ⟨named.distinct.sublist inner, fun name held => named.nonempty name (inner.subset held)⟩

theorem WellNamed.memberIds {name : String} {members : List Backend}
    (named : (Backend.aggregate name members).WellNamed) :
    memberIds members = members.map Backend.name := by
  have within : (members.map Backend.name).Sublist
      (Backend.aggregate name members).innerNames := by
    rw [innerNames_aggregate, List.map_eq_flatMap]
    apply List.Sublist.flatMap_right
    intro member _
    simp
  apply memberIds_eq_names (named.distinct.sublist within)
  intro member held
  exact named.nonempty member.name (within.subset (List.mem_map_of_mem held))

theorem leaf_names_sublist (backend : Backend) :
    (backend.leaves.map (·.name)).Sublist (backend.name :: backend.innerNames) := by
  induction backend with
  | leaf source =>
      rw [leaves_leaf]
      exact List.Sublist.cons_cons _ (List.nil_sublist _)
  | aggregate name members ih =>
      rw [leaves_aggregate, innerNames_aggregate, List.map_flatMap]
      exact (List.Sublist.flatMap_right members ih).cons _

theorem WellNamed.flat {name : String} {members : List Backend}
    (named : (Backend.aggregate name members).WellNamed) (flatName : String) :
    ((Backend.aggregate name members).flat flatName).WellNamed := by
  have within : ((Backend.aggregate name members).leaves.map (·.name)).Sublist
      (Backend.aggregate name members).innerNames := by
    rw [leaves_aggregate, innerNames_aggregate, List.map_flatMap]
    apply List.Sublist.flatMap_right
    intro member _
    exact leaf_names_sublist member
  constructor
  · rw [innerNames_flat]
    exact named.distinct.sublist within
  · intro name held
    rw [innerNames_flat] at held
    exact named.nonempty name (within.subset held)

/-! ## What the sources answer -/

/-- What is shown of a backend that fits: of a source its own items, and of an aggregate the
first of each key of what is shown of its members. -/
structure Shows (key : α → String) (fit : Backend → Prop) (own : Source → List α)
    (shown : Backend → List α) : Prop where
  within : ∀ name members, fit (.aggregate name members) → ∀ member ∈ members, fit member
  leaf : ∀ source, shown (.leaf source) = own source
  aggregate : ∀ name members, fit (.aggregate name members) →
    shown (.aggregate name members) = keepFirst key [] (members.flatMap shown)

namespace Shows

variable {fit : Backend → Prop} {own : Source → List α} {shown : Backend → List α}

theorem keepFirst_eq (shows : Shows key fit own shown) {backend : Backend} (fits : fit backend) :
    keepFirst key [] (shown backend) = keepFirst key [] (backend.leaves.flatMap own) := by
  induction backend with
  | leaf source => rw [shows.leaf, leaves_leaf, List.flatMap_singleton]
  | aggregate name members ih =>
      rw [shows.aggregate name members fits, keepFirst_keepFirst, leaves_aggregate,
        List.flatMap_assoc]
      apply keepFirst_flatMap_congr
      intro member held
      exact ih member held (shows.within name members fits member held)

/-- Of an aggregate the first items of its sources are shown, however deep they stand. -/
theorem aggregate_eq (shows : Shows key fit own shown) {name : String}
    {members : List Backend} (fits : fit (.aggregate name members)) :
    shown (.aggregate name members) =
      keepFirst key [] ((Backend.aggregate name members).leaves.flatMap own) := by
  rw [← shows.keepFirst_eq fits, shows.aggregate name members fits, keepFirst_keepFirst]

/-- Of an aggregate and of the aggregate of its sources the same is shown. -/
theorem flat_eq (shows : Shows key fit own shown) {name flatName : String}
    {members : List Backend} (fits : fit (.aggregate name members))
    (flatFits : fit ((Backend.aggregate name members).flat flatName)) :
    shown ((Backend.aggregate name members).flat flatName) =
      shown (.aggregate name members) := by
  rw [shows.aggregate_eq fits, ← leaves_flat flatName]
  exact shows.aggregate_eq flatFits

end Shows

/-- If an aggregate fails exactly when a member does, a backend fails exactly when a source
does. -/
theorem cause?_leaves {ask : Backend → Fetch α} {own : Source → Fetch α}
    (leaf : ∀ source, ask (.leaf source) = own source)
    (aggregate : ∀ name members, (ask (.aggregate name members)).cause? = none ↔
      ∀ member ∈ members, (ask member).cause? = none) (backend : Backend) :
    (ask backend).cause? = none ↔ ∀ source ∈ backend.leaves, (own source).cause? = none := by
  induction backend with
  | leaf source => rw [leaf, leaves_leaf, List.forall_mem_singleton]
  | aggregate name members ih =>
      rw [aggregate, leaves_aggregate, List.forall_mem_flatMap]
      exact forall₂_congr ih

/-! ## What an aggregate answers -/

/-- Reading the answers of members, whatever their identifiers, is reading the members. -/
theorem flatMap_zip_memberIds {β : Type} (members : List Backend) (ask : Backend → Fetch α)
    (view : Fetch α → List β) :
    (((memberIds members).zip (members.map ask)).flatMap fun answer => view answer.2) =
      members.flatMap fun member => view (ask member) := by
  calc
    (((memberIds members).zip (members.map ask)).flatMap fun answer => view answer.2)
    _ = (((memberIds members).zip (members.map ask)).map (·.2)).flatMap view :=
      (List.flatMap_map Prod.snd view _).symm
    _ = members.flatMap fun member => view (ask member) := by
      rw [map_snd_zip_memberIds, List.flatMap_map]

theorem forall_zip_memberIds (members : List Backend) (ask : Backend → Fetch α)
    (property : Fetch α → Prop) :
    (∀ answer ∈ (memberIds members).zip (members.map ask), property answer.2) ↔
      ∀ member ∈ members, property (ask member) := by
  have answers := map_snd_zip_memberIds members ask
  rw [← List.forall_mem_map (f := Prod.snd) (P := property), answers, List.forall_mem_map]

theorem summary_items_aggregate (name : String) (members : List Backend) :
    (Backend.aggregate name members).summary.items =
      keepFirst (·.id) [] (members.flatMap (·.summary.items)) := by
  rw [summary, summaries_eq_map, gather_items_eq_keepFirst _ _ fun _ _ => rfl]
  simp only [List.map_id']
  rw [flatMap_zip_memberIds members summary Fetch.items]

theorem details_items_aggregate (name : String) (members : List Backend) (ids : List String) :
    ((Backend.aggregate name members).details ids).items =
      keepFirst (·.id) [] (((memberIds members).zip (members.map (details ids))).flatMap
        fun answer => answer.2.items.map (Entity.stamp answer.1)) := by
  rw [details, detailsOfAll_eq_map, gather_items_eq_keepFirst _ _ Entity.stamp_id]

theorem unstamped_items_aggregate (name : String) (members : List Backend)
    (ids : List String) :
    ((Backend.aggregate name members).details ids).items.map Entity.unstamped =
      keepFirst (·.id) [] (members.flatMap fun member =>
        (member.details ids).items.map Entity.unstamped) := by
  have unmarked (answer : String × Fetch Entity) :
      answer.2.items.map Entity.unstamped =
        (answer.2.items.map (Entity.stamp answer.1)).map Entity.unstamped := by
    rw [List.map_map]
    rfl
  have offered := flatMap_zip_memberIds members (details ids)
    fun answer => answer.items.map Entity.unstamped
  rw [details_items_aggregate, ← offered]
  simp only [unmarked]
  rw [← List.map_flatMap, keepFirst_map]
  rfl

theorem stamped_items_aggregate {name : String} {members : List Backend}
    (named : (Backend.aggregate name members).WellNamed) (ids : List String) :
    ((Backend.aggregate name members).details ids).items =
      keepFirst (·.id) [] (members.flatMap fun member =>
        (member.details ids).items.map (Entity.stamp member.name)) := by
  rw [details_items_aggregate, named.memberIds, List.zip_map', List.flatMap_map]

/-- An aggregate serves stamped entities only. -/
theorem map_stamp_details_aggregate (name : String) (members : List Backend)
    (ids : List String) (backend : String) :
    ((Backend.aggregate name members).details ids).items.map (Entity.stamp backend) =
      ((Backend.aggregate name members).details ids).items := by
  rw [List.map_congr_left, List.map_id]
  intro entity served
  obtain ⟨member, -, offered, -, memberId, rfl⟩ := exists_of_mem_details_aggregate served
  exact Entity.stamp_of_isSome (Entity.stamp_isSome memberId offered) backend

/-! ## Nested aggregates and flat ones -/

theorem shows_summary :
    Shows (·.id) (fun _ => True) (·.summary.items) (fun backend => backend.summary.items) where
  within _ _ _ _ _ := trivial
  leaf source := by rw [summary]
  aggregate name members _ := summary_items_aggregate name members

theorem shows_unstamped (ids : List String) :
    Shows (·.id) (fun _ => True) (fun source => (source.details ids).items.map Entity.unstamped)
      (fun backend => (backend.details ids).items.map Entity.unstamped) where
  within _ _ _ _ _ := trivial
  leaf source := by rw [details]
  aggregate name members _ := unstamped_items_aggregate name members ids

/-- Where backends are well named, what a source serves is stamped with its name. -/
theorem shows_stamped (ids : List String) :
    Shows (·.id) WellNamed
      (fun source => (source.details ids).items.map (Entity.stamp source.name))
      (fun backend => (backend.details ids).items.map (Entity.stamp backend.name)) where
  within _ _ named _ held := named.member held
  leaf source := by rw [details, name]
  aggregate name members named := by
    rw [map_stamp_details_aggregate]
    exact stamped_items_aggregate named ids

theorem summary_cause?_leaves (backend : Backend) :
    backend.summary.cause? = none ↔ ∀ source ∈ backend.leaves, source.summary.cause? = none := by
  apply cause?_leaves fun source => by rw [summary]
  intro name members
  rw [summary, summaries_eq_map, gather_cause?_eq_none_iff]
  exact forall_zip_memberIds members summary (·.cause? = none)

theorem details_cause?_leaves (ids : List String) (backend : Backend) :
    (backend.details ids).cause? = none ↔
      ∀ source ∈ backend.leaves, (source.details ids).cause? = none := by
  apply cause?_leaves fun source => by rw [details]
  intro name members
  rw [details, detailsOfAll_eq_map, gather_cause?_eq_none_iff]
  exact forall_zip_memberIds members (details ids) (·.cause? = none)

/-- Where backends are well named, an aggregate serves the first of each id of what its
sources serve, with the names of the sources for stamps. -/
theorem details_items_eq {name : String} {members : List Backend}
    (named : (Backend.aggregate name members).WellNamed) (ids : List String) :
    ((Backend.aggregate name members).details ids).items =
      keepFirst (·.id) [] ((Backend.aggregate name members).leaves.flatMap fun source =>
        (source.details ids).items.map (Entity.stamp source.name)) := by
  have shown := (shows_stamped ids).aggregate_eq named
  beta_reduce at shown
  rwa [map_stamp_details_aggregate] at shown

theorem served_by_first_leaf {name : String} {members : List Backend} {ids : List String}
    (named : (Backend.aggregate name members).WellNamed) {entity : Entity}
    (served : entity ∈ ((Backend.aggregate name members).details ids).items) :
    ((Backend.aggregate name members).leaves.findSome? fun source =>
      ((source.details ids).items.find? (·.id == entity.id)).map
        (Entity.stamp source.name)) = some entity := by
  have found := find?_eq_some_of_mem (details_aggregate_nodup name members ids) served
  rw [details_items_eq named, find?_keepFirst (by simp), List.find?_flatMap] at found
  simp only [List.find?_map] at found
  exact found

/-- An aggregate, however its members are nested, and the aggregate of all its sources answer
alike: they give the same items, but for stamps, and fail together.  Where the backends
within have names and no two the same, the stamps agree too, and each names the source that
is the first to serve its entity. -/
theorem flat_answers_alike (name flatName : String) (members : List Backend)
    (ids : List String) :
    let nested := Backend.aggregate name members
    let flat := nested.flat flatName
    flat.summary.items = nested.summary.items ∧
    (flat.summary.cause? = none ↔ nested.summary.cause? = none) ∧
    (flat.details ids).items.map Entity.unstamped =
      (nested.details ids).items.map Entity.unstamped ∧
    ((flat.details ids).cause? = none ↔ (nested.details ids).cause? = none) ∧
    (nested.WellNamed →
      (flat.details ids).items = (nested.details ids).items ∧
      ∀ entity ∈ (nested.details ids).items,
        (nested.leaves.findSome? fun source =>
          ((source.details ids).items.find? (·.id == entity.id)).map
            (Entity.stamp source.name)) = some entity) := by
  intro nested flat
  refine ⟨shows_summary.flat_eq trivial trivial, ?_, (shows_unstamped ids).flat_eq trivial trivial,
    ?_, ?_⟩
  · rw [summary_cause?_leaves flat, summary_cause?_leaves nested, leaves_flat]
  · rw [details_cause?_leaves ids flat, details_cause?_leaves ids nested, leaves_flat]
  · intro named
    refine ⟨?_, fun entity served => served_by_first_leaf named served⟩
    rw [details_items_eq named ids, ← leaves_flat flatName]
    exact details_items_eq (named.flat flatName) ids

/-- A source that fails with a partial answer, before an aggregate that serves its document too. -/
def partialMembers : List Backend :=
  let document (id body : String) : Entity :=
    { id, kind := .recipe, tier := none, body, resourceLocator := id, metadata := [],
      lastUpdated := Moment.epoch }
  [.leaf (Source.failing "broken" .notInitialized [] [document "x" "kept"]),
    .aggregate "inner" [
      .leaf (Collection.ofEntities "team" [document "x" "shadowed", document "y" "team"]).source,
      .leaf (Collection.ofEntities "personal" [document "y" "personal"]).source]]

theorem flat_answers_alike_partial :
    (Backend.aggregate "all" partialMembers).WellNamed ∧
      (((Backend.aggregate "all" partialMembers).flat "flat").details ["x", "y"]).items =
        ((Backend.aggregate "all" partialMembers).details ["x", "y"]).items := by
  have names : (Backend.aggregate "all" partialMembers).innerNames =
      ["broken", "inner", "team", "personal"] := by rfl
  have named : (Backend.aggregate "all" partialMembers).WellNamed :=
    ⟨by rw [names]; decide, by rw [names]; decide⟩
  have alike := flat_answers_alike "all" "flat" partialMembers ["x", "y"]
  exact ⟨named, (alike.2.2.2.2 named).1⟩

end Backend

end Guidebook
