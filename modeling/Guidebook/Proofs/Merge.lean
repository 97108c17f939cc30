import Guidebook.Proofs.FirstOfEach

/-!
# Merged answers

An aggregate asks its members in order and merges what they answer.  The merge
reads the answers once, with a table of the members that own the keys so far.
This module relates that table and the items that are kept to the items that were
offered, and derives what an aggregate answers: the first item of each key, as its
member offered it or with that member's stamp, and a failure that names the
members that failed.
-/

namespace Guidebook

namespace Backend

variable {α : Type} {key : α → String} {mark : (memberId : String) → α → α}

/-- The items that members offer, each with its member, in order. -/
def offers (answers : List (String × Fetch α)) : List (String × α) :=
  answers.flatMap fun answer => answer.2.items.map fun item => (answer.1, item)

/-- The members that failed, each with its error, in order. -/
def failuresOf (answers : List (String × Fetch α)) : List (String × Error) :=
  answers.filterMap fun answer => answer.2.cause?.map fun cause => (answer.1, cause)

@[simp] theorem offers_cons (answer : String × Fetch α) (rest : List (String × Fetch α)) :
    offers (answer :: rest) = answer.2.items.map (fun item => (answer.1, item)) ++ offers rest :=
  rfl

theorem failuresOf_cons (answer : String × Fetch α) (rest : List (String × Fetch α)) :
    failuresOf (answer :: rest) =
      (answer.2.cause?.map fun cause => (answer.1, cause)).toList ++ failuresOf rest := by
  rw [failuresOf, List.filterMap_cons]
  cases answer.2.cause? <;> rfl

/-! ## The loop -/

namespace Merge

/-- A merge that has taken over some offers: it keeps the first offer of each key,
and the owner of a key is the member that made it. -/
structure Follows (key : α → String) (mark : (memberId : String) → α → α)
    (offered : List (String × α)) (merge : Merge α) : Prop where
  kept : merge.kept =
    (keepFirst (fun offer => key offer.2) [] offered).map fun offer => mark offer.1 offer.2
  owners : Tracks (fun offer => key offer.2) (·.1) offered merge.owners

theorem follows_nil : Follows key mark [] {} where
  kept := rfl
  owners := .nil

/-- One offer more is kept exactly when its key has no owner. -/
theorem Follows.offer {offered : List (String × α)} {merge : Merge α}
    (follows : merge.Follows key mark offered) (memberId : String) (item : α) :
    (merge.offer key mark memberId item).Follows key mark (offered ++ [(memberId, item)]) := by
  unfold Merge.offer
  split
  · next owner owned =>
      exact {
        kept := by
          rw [follows.owners.keepFirst_pass (memberId, item) owned]
          exact follows.kept
        owners := follows.owners.pass (memberId, item) owned }
  · next unowned =>
      exact {
        kept := by
          rw [follows.owners.keepFirst_enter (memberId, item) unowned, List.map_append,
            ← follows.kept]
          rfl
        owners := follows.owners.enter (memberId, item) unowned }

theorem Follows.foldl_offer {offered : List (String × α)} {merge : Merge α}
    (follows : merge.Follows key mark offered) (memberId : String) (items : List α) :
    (items.foldl (Merge.offer key mark memberId) merge).Follows key mark
      (offered ++ items.map fun item => (memberId, item)) := by
  induction items generalizing offered merge with
  | nil => simpa using follows
  | cons item rest ih => simpa using ih (follows.offer memberId item)

@[simp] theorem offer_failures (memberId : String) (merge : Merge α) (item : α) :
    (merge.offer key mark memberId item).failures = merge.failures := by
  unfold Merge.offer
  split <;> rfl

theorem foldl_offer_failures (memberId : String) (merge : Merge α) (items : List α) :
    (items.foldl (Merge.offer key mark memberId) merge).failures = merge.failures := by
  induction items generalizing merge with
  | nil => rfl
  | cons item rest ih => rw [List.foldl_cons, ih, offer_failures]

theorem take_failures (merge : Merge α) (answer : String × Fetch α) :
    (merge.take key mark answer).failures =
      merge.failures ++ (answer.2.cause?.map fun cause => (answer.1, cause)).toList := by
  rw [Merge.take, foldl_offer_failures]
  cases answer.2.cause? <;> simp [note]

/-- Noting a failure changes neither the kept items nor their owners. -/
theorem Follows.take {offered : List (String × α)} {merge : Merge α}
    (follows : merge.Follows key mark offered) (answer : String × Fetch α) :
    (merge.take key mark answer).Follows key mark
      (offered ++ answer.2.items.map fun item => (answer.1, item)) := by
  apply Follows.foldl_offer
  cases answer.2.cause? <;> exact ⟨follows.kept, follows.owners⟩

theorem Follows.foldl_take {offered : List (String × α)} {merge : Merge α}
    (follows : merge.Follows key mark offered) (answers : List (String × Fetch α)) :
    (answers.foldl (Merge.take key mark) merge).Follows key mark (offered ++ offers answers) ∧
      (answers.foldl (Merge.take key mark) merge).failures =
        merge.failures ++ failuresOf answers := by
  -- the offers that are taken over grow with each answer, so the claim is for any of them
  induction answers generalizing offered merge with
  | nil => simpa [offers, failuresOf] using follows
  | cons answer rest ih =>
      obtain ⟨restFollows, restFailures⟩ := ih (follows.take answer)
      constructor
      · simpa using restFollows
      · rw [List.foldl_cons, restFailures, take_failures, failuresOf_cons, List.append_assoc]

@[simp] theorem answer_items (operation : String) (merge : Merge α) :
    (merge.answer operation).items = merge.kept := by
  unfold Merge.answer
  split <;> rfl

theorem answer_cause? (operation : String) (merge : Merge α) :
    (merge.answer operation).cause? =
      if merge.failures.isEmpty then none
      else some (.backendFailures operation merge.failures) := by
  unfold Merge.answer
  split <;> rfl

end Merge

/-! ## What is gathered -/

/-- The items of a gathered answer are the first offers of all keys, marked. -/
theorem gather_items (operation : String) (answers : List (String × Fetch α)) :
    (gather operation key mark answers).items =
      (keepFirst (fun offer => key offer.2) [] (offers answers)).map
        fun offer => mark offer.1 offer.2 := by
  have start : Merge.Follows key mark [] ({} : Merge α) := Merge.follows_nil
  have merged := start.foldl_take answers
  rw [gather, Merge.answer_items, merged.1.kept, List.nil_append]

/-- Marking before keeping is the same, if marks leave the keys alone. -/
theorem gather_items_eq_keepFirst (operation : String) (answers : List (String × Fetch α))
    (markKeepsKey : ∀ memberId item, key (mark memberId item) = key item) :
    (gather operation key mark answers).items =
      keepFirst key [] (answers.flatMap fun answer => answer.2.items.map (mark answer.1)) := by
  have marked : (answers.flatMap fun answer => answer.2.items.map (mark answer.1)) =
      (offers answers).map fun offer => mark offer.1 offer.2 := by
    rw [offers, List.map_flatMap]
    simp [Function.comp_def]
  rw [marked, keepFirst_map, gather_items]
  simp only [markKeepsKey]

theorem gather_cause? (key : α → String) (mark : (memberId : String) → α → α)
    (operation : String) (answers : List (String × Fetch α)) :
    (gather operation key mark answers).cause? =
      if (failuresOf answers).isEmpty then none
      else some (.backendFailures operation (failuresOf answers)) := by
  have start : Merge.Follows key mark [] ({} : Merge α) := Merge.follows_nil
  have merged := start.foldl_take answers
  rw [gather, Merge.answer_cause?, merged.2]
  rfl

/-- A search by key in a gathered answer finds the first offer of the key, marked. -/
theorem find?_gather (operation : String) (answers : List (String × Fetch α))
    (markKeepsKey : ∀ memberId item, key (mark memberId item) = key item) (wanted : String) :
    (gather operation key mark answers).items.find? (key · == wanted) =
      ((offers answers).find? fun offer => key offer.2 == wanted).map
        fun offer => mark offer.1 offer.2 := by
  have sameTest : (key · == wanted) ∘ (fun offer : String × α => mark offer.1 offer.2) =
      fun offer => key offer.2 == wanted := by
    funext offer
    exact congrArg (· == wanted) (markKeepsKey offer.1 offer.2)
  rw [gather_items, List.find?_map, sameTest, find?_keepFirst (by simp)]

/-- What it means that an answer merges the answers of some members: first wins by
key, and a failure names every member that failed. -/
structure IsMerge (operation : String) (key : α → String)
    (mark : (memberId : String) → α → α) (answers : List (String × Fetch α))
    (merged : Fetch α) : Prop where
  /-- The keys are those that are offered, in order and without repetitions. -/
  keys : merged.items.map key = ((offers answers).map fun offer => key offer.2).eraseDups
  distinct : (merged.items.map key).Nodup
  covers : ∀ answer ∈ answers, ∀ item ∈ answer.2.items, key item ∈ merged.items.map key
  /-- Each item is the first that any member offers under its key, marked. -/
  first : ∀ item ∈ merged.items, ∃ memberId offered,
    ((offers answers).find? fun offer => key offer.2 == key item) = some (memberId, offered) ∧
      item = mark memberId offered
  complete_iff : (∃ items, merged = .complete items) ↔
    ∀ answer ∈ answers, ∃ items, answer.2 = .complete items
  cause_eq : ∀ partialItems cause, merged = .failed partialItems cause →
    cause = .backendFailures operation (failuresOf answers)

theorem isComplete_iff (answer : Fetch α) :
    (∃ items, answer = .complete items) ↔ answer.cause? = none := by
  cases answer <;> simp [Fetch.cause?]

theorem failuresOf_eq_nil_iff (answers : List (String × Fetch α)) :
    failuresOf answers = [] ↔ ∀ answer ∈ answers, answer.2.cause? = none := by
  simp [failuresOf, List.filterMap_eq_nil_iff]

theorem keys_gather (operation : String) (answers : List (String × Fetch α))
    (markKeepsKey : ∀ memberId item, key (mark memberId item) = key item) :
    (gather operation key mark answers).items.map key =
      ((offers answers).map fun offer => key offer.2).eraseDups := by
  rw [gather_items, List.map_map, ← keys_keepFirst]
  apply List.map_congr_left
  intro offer _
  exact markKeepsKey offer.1 offer.2

theorem keys_gather_nodup (operation : String) (answers : List (String × Fetch α))
    (markKeepsKey : ∀ memberId item, key (mark memberId item) = key item) :
    ((gather operation key mark answers).items.map key).Nodup := by
  rw [keys_gather operation answers markKeepsKey, ← keys_keepFirst]
  exact keepFirst_keys_nodup [] (offers answers)

theorem gather_cause?_eq_none_iff (key : α → String) (mark : (memberId : String) → α → α)
    (operation : String) (answers : List (String × Fetch α)) :
    (gather operation key mark answers).cause? = none ↔
      ∀ answer ∈ answers, answer.2.cause? = none := by
  rw [gather_cause?, ← failuresOf_eq_nil_iff]
  simp

/-- Gathering merges, whatever mark leaves the keys alone. -/
theorem gather_isMerge (operation : String) (answers : List (String × Fetch α))
    (markKeepsKey : ∀ memberId item, key (mark memberId item) = key item) :
    IsMerge operation key mark answers (gather operation key mark answers) where
  keys := keys_gather operation answers markKeepsKey
  distinct := keys_gather_nodup operation answers markKeepsKey
  covers := by
    intro answer answerMember item itemMember
    rw [keys_gather operation answers markKeepsKey, List.mem_eraseDups]
    refine List.mem_map.mpr ⟨(answer.1, item), ?_, rfl⟩
    exact List.mem_flatMap.mpr ⟨answer, answerMember, List.mem_map_of_mem itemMember⟩
  first := by
    intro item kept
    have found := find?_eq_some_of_mem (keys_gather_nodup operation answers markKeepsKey) kept
    rw [find?_gather operation answers markKeepsKey, Option.map_eq_some_iff] at found
    obtain ⟨⟨memberId, offered⟩, search, marked⟩ := found
    exact ⟨memberId, offered, search, marked.symm⟩
  complete_iff := by
    simp only [isComplete_iff, gather_cause?_eq_none_iff]
  cause_eq := by
    intro partialItems cause failed
    have stated := gather_cause? key mark operation answers
    rw [failed, Fetch.cause?] at stated
    split at stated
    · cases stated
    · exact Option.some.inj stated

/-! ## Aggregates -/

/-- Every member is asked once, in order. -/
theorem map_snd_zip_memberIds {β : Type} (members : List Backend) (ask : Backend → β) :
    ((memberIds members).zip (members.map ask)).map (·.2) = members.map ask :=
  List.map_snd_zip (by simp)

/-- An aggregate answers with the merge of its members' answers.  Its summaries are
as the members give them; an entity without a stamp gets the identifier of the member
that supplied it, and nothing else of it changes. -/
theorem aggregate_isMerge (name : String) (members : List Backend) (ids : List String) :
    IsMerge "get_summary" (·.id) (fun _ item => item)
        ((memberIds members).zip (members.map summary))
        (Backend.aggregate name members).summary ∧
      IsMerge "get_details" (·.id)
        (fun memberId entity =>
          { entity with originatingBackend := entity.originatingBackend.or (some memberId) })
        ((memberIds members).zip (members.map (details ids)))
        ((Backend.aggregate name members).details ids) := by
  have stamps : Entity.stamp = fun memberId entity =>
      { entity with originatingBackend := entity.originatingBackend.or (some memberId) } := by
    funext memberId entity
    unfold Entity.stamp
    cases entity.originatingBackend <;> rfl
  constructor
  · rw [summary, summaries_eq_map]
    exact gather_isMerge _ _ fun _ _ => rfl
  · rw [details, detailsOfAll_eq_map, stamps]
    exact gather_isMerge _ _ fun _ _ => rfl

/-- What an aggregate serves some member has served, but for the stamp. -/
theorem exists_of_mem_details_aggregate {name : String} {members : List Backend}
    {ids : List String} {entity : Entity}
    (served : entity ∈ ((Backend.aggregate name members).details ids).items) :
    ∃ member ∈ members, ∃ offered ∈ (member.details ids).items, ∃ memberId,
      entity = offered.stamp memberId := by
  rw [details, detailsOfAll_eq_map, gather_items] at served
  obtain ⟨⟨memberId, offered⟩, kept, rfl⟩ := List.mem_map.mp served
  obtain ⟨⟨answerId, answer⟩, asked, offer⟩ := List.mem_flatMap.mp (mem_of_mem_keepFirst kept)
  obtain ⟨item, held, same⟩ := List.mem_map.mp offer
  obtain ⟨member, memberMem, rfl⟩ := List.mem_map.mp (List.of_mem_zip asked).2
  cases same
  exact ⟨member, memberMem, _, held, _, rfl⟩

theorem details_aggregate_nodup (name : String) (members : List Backend) (ids : List String) :
    (((Backend.aggregate name members).details ids).items.map (·.id)).Nodup := by
  rw [details]
  exact keys_gather_nodup _ _ Entity.stamp_id

end Backend

end Guidebook
