import Guidebook.Command.Service
import Guidebook.Proofs.FirstOfEach

/-!
# Deliveries

Requested entities are handed over from a table that is drained on the way, so a mention of an
id is answered by what happened at the mentions before.  This module says what a delivery comes
to: the entities of the requested ids in the order of their first mention, and every mention of
an id that was not in the table from the start.
-/

namespace Guidebook.Command

open Backend

namespace Handover

variable {entity? : String → Option Entity} {seen : List String} {handover : Handover}

/-- A delivery after some mentions of ids: what was handed over is left no more, and what was
found and what is missing goes by the entities from the start. -/
structure Follows (entity? : String → Option Entity) (seen : List String) (handover : Handover) :
    Prop where
  left : ∀ id, handover.left.lookup id = if id ∈ seen then none else entity? id
  found : handover.found = (keepFirst id [] seen).filterMap entity?
  missing : handover.missing = seen.filter fun id => (entity? id).isNone

theorem Follows.start (left : List (String × Entity)) :
    Follows (fun id => left.lookup id) [] { left } where
  left _ := by simp
  found := rfl
  missing := rfl

/-- An entity was found under an id if the id was mentioned and has an entity. -/
theorem Follows.any_found_iff (follows : handover.Follows entity? seen)
    (keyed : ∀ id entity, entity? id = some entity → entity.id = id) (id : String) :
    handover.found.any (·.id == id) = true ↔ id ∈ seen ∧ (entity? id).isSome := by
  rw [follows.found, keepFirst_id, List.any_eq_true]
  constructor
  · rintro ⟨entity, held, same⟩
    obtain ⟨name, mentioned, found⟩ := List.mem_filterMap.mp held
    have named : name = id := (keyed name entity found).symm.trans (beq_iff_eq.mp same)
    rw [← named, found]
    exact ⟨List.mem_eraseDups.mp mentioned, rfl⟩
  · rintro ⟨mentioned, found⟩
    obtain ⟨entity, found⟩ := Option.isSome_iff_exists.mp found
    exact ⟨entity, List.mem_filterMap.mpr ⟨id, List.mem_eraseDups.mpr mentioned, found⟩,
      beq_iff_eq.mpr (keyed id entity found)⟩

/-- What is found under the first mentions of ids, after one more mention. -/
theorem filterMap_keepFirst_concat (seen : List String) (name : String) :
    (keepFirst id [] (seen ++ [name])).filterMap entity? =
      (keepFirst id [] seen).filterMap entity? ++
        if name ∈ seen then [] else (entity? name).toList := by
  rw [keepFirst_concat]
  by_cases mentioned : name ∈ seen
  · rw [if_pos (by simp [mentioned]), if_pos mentioned, List.append_nil]
  · rw [if_neg (by simp [mentioned]), if_neg mentioned, List.filterMap_append]
    cases found : entity? name <;> simp [found]

/-- An entity that is left was not asked for yet, and is handed over. -/
theorem Follows.handOver (follows : handover.Follows entity? seen) {name : String}
    {entity : Entity} (held : handover.left.lookup name = some entity) :
    Follows entity? (seen ++ [name])
      { handover with
        left := Keyed.erase name handover.left
        found := handover.found ++ [entity] } := by
  rw [follows.left] at held
  have new : name ∉ seen := by
    intro mentioned
    rw [if_pos mentioned] at held
    cases held
  rw [if_neg new] at held
  exact {
    left := by
      intro id
      rw [Keyed.lookup_erase, follows.left]
      by_cases same : id = name <;> simp [same]
    found := by
      rw [filterMap_keepFirst_concat, if_neg new, held, follows.found]
      rfl
    missing := by
      rw [List.filter_append, follows.missing]
      simp [held] }

/-- The entity of an id that was mentioned before was handed over then. -/
theorem Follows.pass (follows : handover.Follows entity? seen) {name : String}
    (mentioned : name ∈ seen) (found : (entity? name).isSome) :
    handover.Follows entity? (seen ++ [name]) where
  left id := by
    rw [follows.left]
    by_cases same : id = name <;> simp [same, mentioned]
  found := by
    rw [filterMap_keepFirst_concat, if_pos mentioned, List.append_nil, follows.found]
  missing := by
    rw [List.filter_append, follows.missing]
    simp [Option.isSome_iff_ne_none.mp found]

/-- A mention of an id without an entity is missing, also when it is mentioned again. -/
theorem Follows.lack (follows : handover.Follows entity? seen) {name : String}
    (none : entity? name = none) :
    Follows entity? (seen ++ [name]) { handover with missing := handover.missing ++ [name] } where
  left id := by
    rw [follows.left]
    by_cases same : id = name <;> simp [same, none]
  found := by
    rw [filterMap_keepFirst_concat, none, follows.found]
    simp
  missing := by
    rw [List.filter_append, follows.missing]
    simp [none]

/-- One more mention is answered according to the entities from the start. -/
theorem Follows.answer (follows : handover.Follows entity? seen)
    (keyed : ∀ id entity, entity? id = some entity → entity.id = id) (name : String) :
    (handover.answer name).Follows entity? (seen ++ [name]) := by
  unfold Handover.answer
  split
  · next entity held => exact follows.handOver held
  · next absent =>
      split
      · next handed =>
          obtain ⟨mentioned, found⟩ := (follows.any_found_iff keyed name).mp handed
          exact follows.pass mentioned found
      · next unhanded =>
          apply follows.lack
          rw [follows.left] at absent
          rw [follows.any_found_iff keyed, not_and, Option.not_isSome_iff_eq_none] at unhanded
          by_cases mentioned : name ∈ seen
          · exact unhanded mentioned
          · rwa [if_neg mentioned] at absent

theorem Follows.foldl_answer (follows : handover.Follows entity? seen)
    (keyed : ∀ id entity, entity? id = some entity → entity.id = id) (requested : List String) :
    (requested.foldl Handover.answer handover).Follows entity? (seen ++ requested) := by
  induction requested generalizing seen handover with
  | nil => rwa [List.append_nil]
  | cons name rest ih =>
      rw [List.append_cons]
      exact ih (follows.answer keyed name)

end Handover

/-- The last of some entities with an id. -/
def last? (entities : List Entity) (id : String) : Option Entity :=
  entities.reverse.find? (·.id == id)

theorem lookup_map_id (entities : List Entity) (id : String) :
    (entities.map fun entity => (entity.id, entity)).lookup id =
      entities.find? (·.id == id) := by
  induction entities with
  | nil => rfl
  | cons entity rest ih =>
      rw [List.map_cons, Keyed.lookup_cons, List.find?_cons, ih]
      by_cases same : entity.id = id
      · simp [same]
      · rw [if_neg (Ne.symm same), beq_eq_false_iff_ne.mpr same]

theorem last?_id {entities : List Entity} {id : String} {entity : Entity}
    (found : last? entities id = some entity) : entity.id = id := by
  simpa using List.find?_some found

theorem exists_last?_of_mem {entities : List Entity} {entity : Entity} (held : entity ∈ entities) :
    ∃ last ∈ entities, last? entities entity.id = some last := by
  cases found : last? entities entity.id with
  | none =>
      have other := List.find?_eq_none.mp found entity (List.mem_reverse.mpr held)
      exact absurd (beq_self_eq_true entity.id) other
  | some last => exact ⟨last, List.mem_reverse.mp (List.mem_of_find?_eq_some found), rfl⟩

/-- A delivery has the entities of the requested ids in the order of their first mention, and
the mentions of ids without an entity are missing. -/
theorem ofEntities_eq (requested : List String) (entities : List Entity) :
    Delivery.ofEntities requested entities =
      ⟨(keepFirst id [] requested).filterMap (last? entities),
        requested.filter fun id => (last? entities id).isNone⟩ := by
  have start := Handover.Follows.start
    (Keyed.ofList (entities.map fun entity => (entity.id, entity)))
  have table : (fun id => (Keyed.ofList
      (entities.map fun entity => (entity.id, entity))).lookup id) = last? entities := by
    funext id
    rw [Keyed.lookup_ofList_eq_reverse, ← List.map_reverse, lookup_map_id]
    rfl
  rw [table] at start
  have follows := start.foldl_answer (fun id entity => last?_id) requested
  rw [Delivery.ofEntities, follows.found, follows.missing]
  rfl

end Guidebook.Command
