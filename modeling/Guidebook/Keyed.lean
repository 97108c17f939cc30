/-!
# Named values in order

A list of named values in ascending order of the names, each name at most once.
The view of such a list is `List.lookup`.
-/

namespace Guidebook.Keyed

variable {α : Type}

/-- Put a named value into its place; a value with the same name is replaced. -/
def insert (name : String) (value : α) : List (String × α) → List (String × α)
  | [] => [(name, value)]
  | (other, old) :: rest =>
      if name < other then (name, value) :: (other, old) :: rest
      else if name = other then (name, value) :: rest
      else (other, old) :: insert name value rest

/-- Leave out the value with a name. -/
def erase (name : String) (values : List (String × α)) : List (String × α) :=
  values.filter fun entry => entry.1 != name

/-- The named values in order; of several with one name the last. -/
def ofList (values : List (String × α)) : List (String × α) :=
  values.foldl (fun sorted (name, value) => insert name value sorted) []

/-- A list is looked through from its start. -/
theorem lookup_cons (wanted name : String) (value : α) (rest : List (String × α)) :
    List.lookup wanted ((name, value) :: rest) =
      if wanted = name then some value else rest.lookup wanted := by
  rw [List.lookup_cons]
  by_cases same : wanted = name
  · simp [same]
  · rw [if_neg same, beq_eq_false_iff_ne.2 same]

/-- An inserted value is found under its name, and nothing else changes. -/
theorem lookup_insert (name wanted : String) (value : α) (values : List (String × α)) :
    (insert name value values).lookup wanted =
      if wanted = name then some value else values.lookup wanted := by
  induction values with
  | nil => simp [insert, lookup_cons]
  | cons entry rest ih =>
      obtain ⟨first, old⟩ := entry
      unfold insert
      split
      · simp [lookup_cons]
      · split
        · next named => grind [lookup_cons]
        · next named => grind [lookup_cons]

/-- A value is found under exactly the names of the list. -/
theorem lookup_isSome_iff_mem (name : String) (values : List (String × α)) :
    (values.lookup name).isSome ↔ name ∈ values.map (·.1) := by
  induction values with
  | nil => simp
  | cons entry rest ih =>
      obtain ⟨first, value⟩ := entry
      rw [lookup_cons, List.map_cons, List.mem_cons, ← ih]
      split
      · next same => simp [same]
      · next other => simp [other]

/-- A value with a new name comes to the values that are there. -/
theorem insert_perm {name : String} (value : α) {values : List (String × α)}
    (absent : values.lookup name = none) :
    (insert name value values).Perm ((name, value) :: values) := by
  induction values with
  | nil => exact .refl _
  | cons entry rest ih =>
      obtain ⟨first, old⟩ := entry
      rw [lookup_cons] at absent
      split at absent
      · cases absent
      · next other =>
          rw [insert, if_neg other]
          split
          · exact .refl _
          · exact ((ih absent).cons (first, old)).trans (.swap (name, value) (first, old) rest)

/-- A value whose name comes after all names is put at the end. -/
theorem insert_of_forall_lt {name : String} (value : α) {values : List (String × α)}
    (before : ∀ entry ∈ values, entry.1 < name) :
    insert name value values = values ++ [(name, value)] := by
  induction values with
  | nil => rfl
  | cons entry rest ih =>
      obtain ⟨first, old⟩ := entry
      obtain ⟨below, later⟩ := List.forall_mem_cons.mp before
      have other : name ≠ first := by
        rintro rfl
        exact String.lt_irrefl name below
      rw [insert, if_neg (String.lt_asymm below), if_neg other, ih later]
      rfl

theorem eq_or_mem_of_mem_insert {name : String} {value : α} {values : List (String × α)}
    {entry : String × α} (member : entry ∈ insert name value values) :
    entry = (name, value) ∨ entry ∈ values := by
  induction values with
  | nil => exact .inl (List.mem_singleton.mp member)
  | cons first rest ih =>
      unfold insert at member
      split at member
      · cases List.mem_cons.mp member with
        | inl same => exact .inl same
        | inr among => exact .inr among
      · split at member
        · cases List.mem_cons.mp member with
          | inl same => exact .inl same
          | inr among => exact .inr (List.mem_cons_of_mem _ among)
        · cases List.mem_cons.mp member with
          | inl same => exact .inr (by rw [same]; exact List.mem_cons_self)
          | inr among =>
              cases ih among with
              | inl named => exact .inl named
              | inr other => exact .inr (List.mem_cons_of_mem _ other)

theorem sorted_insert {values : List (String × α)}
    (sorted : (values.map (·.1)).Pairwise (· < ·)) (name : String) (value : α) :
    ((insert name value values).map (·.1)).Pairwise (· < ·) := by
  induction values with
  | nil => exact List.pairwise_singleton _ _
  | cons entry rest ih =>
      obtain ⟨first, old⟩ := entry
      obtain ⟨below, later⟩ := List.pairwise_cons.mp sorted
      unfold insert
      split
      · next before =>
          refine List.pairwise_cons.mpr ⟨?_, sorted⟩
          intro other member
          cases List.mem_cons.mp member with
          | inl same => exact same ▸ before
          | inr among => exact String.lt_trans before (below other among)
      · split
        · next same =>
            rw [same]
            exact sorted
        · next apart other =>
            refine List.pairwise_cons.mpr ⟨?_, ih later⟩
            rw [List.forall_mem_map]
            intro inserted member
            cases eq_or_mem_of_mem_insert member with
            | inl named =>
                have least : first ≤ name := String.not_lt.mp apart
                rw [named]
                exact Std.lt_of_le_of_ne least (Ne.symm other)
            | inr among => exact below inserted.1 (List.mem_map_of_mem among)

theorem mem_of_mem_foldl_insert {first rest : List (String × α)} {entry : String × α}
    (member : entry ∈ rest.foldl (fun sorted (name, value) => insert name value sorted) first) :
    entry ∈ first ∨ entry ∈ rest := by
  induction rest generalizing first with
  | nil => exact .inl member
  | cons next rest ih =>
      rcases ih member with earlier | later
      · rcases eq_or_mem_of_mem_insert earlier with rfl | before
        · exact .inr List.mem_cons_self
        · exact .inl before
      · exact .inr (List.mem_cons_of_mem _ later)

/-- To put named values in order adds none. -/
theorem mem_of_mem_ofList {values : List (String × α)} {entry : String × α}
    (member : entry ∈ ofList values) : entry ∈ values :=
  (mem_of_mem_foldl_insert member).resolve_left List.not_mem_nil

/-- Named values that were put in order are in order. -/
theorem sorted_ofList (values : List (String × α)) :
    ((ofList values).map (·.1)).Pairwise (· < ·) := by
  suffices ∀ first : List (String × α), (first.map (·.1)).Pairwise (· < ·) →
      ((values.foldl (fun sorted (name, value) => insert name value sorted) first).map
        (·.1)).Pairwise (· < ·) from this [] .nil
  induction values with
  | nil => exact fun first sorted => sorted
  | cons entry rest ih => exact fun first sorted => ih _ (sorted_insert sorted entry.1 entry.2)

theorem foldl_insert_of_sorted {first rest : List (String × α)}
    (sorted : ((first ++ rest).map (·.1)).Pairwise (· < ·)) :
    rest.foldl (fun sorted (name, value) => insert name value sorted) first = first ++ rest := by
  induction rest generalizing first with
  | nil => simp
  | cons entry rest ih =>
      have before : ∀ other ∈ first, other.1 < entry.1 := by
        intro other member
        rw [List.map_append, List.pairwise_append] at sorted
        exact sorted.2.2 other.1 (List.mem_map_of_mem member) entry.1 (by simp)
      rw [List.append_cons] at sorted
      rw [List.foldl_cons]
      change rest.foldl _ (insert entry.1 entry.2 first) = _
      rw [insert_of_forall_lt entry.2 before, ih sorted]
      exact (List.append_cons first entry rest).symm

/-- Named values that are in order stay as they are. -/
theorem ofList_of_sorted {values : List (String × α)}
    (sorted : (values.map (·.1)).Pairwise (· < ·)) : ofList values = values :=
  @foldl_insert_of_sorted α [] values sorted

theorem lookup_foldl_insert (first rest : List (String × α)) (name : String) :
    (rest.foldl (fun sorted (name, value) => insert name value sorted) first).lookup name =
      (rest.reverse.lookup name).or (first.lookup name) := by
  induction rest generalizing first with
  | nil => rfl
  | cons entry rest ih =>
      obtain ⟨key, value⟩ := entry
      rw [List.foldl_cons, ih, List.reverse_cons, List.lookup_append, Option.or_assoc,
        lookup_insert, lookup_cons]
      split <;> rfl

/-- Of several values with one name the last counts. -/
theorem lookup_ofList_eq_reverse (values : List (String × α)) (name : String) :
    (ofList values).lookup name = values.reverse.lookup name := by
  rw [ofList, lookup_foldl_insert]
  exact Option.or_none

theorem lookup_reverse {values : List (String × α)} (distinct : (values.map (·.1)).Nodup)
    (name : String) : values.reverse.lookup name = values.lookup name := by
  induction values with
  | nil => rfl
  | cons entry rest ih =>
      obtain ⟨key, value⟩ := entry
      obtain ⟨new, later⟩ := List.nodup_cons.mp distinct
      rw [List.reverse_cons, List.lookup_append, ih later, lookup_cons, lookup_cons]
      split
      · next same =>
          have absent : rest.lookup name = none := by
            rw [← Option.not_isSome_iff_eq_none, lookup_isSome_iff_mem, same]
            exact new
          rw [absent, Option.none_or]
      · exact Option.or_none

/-- Putting named values with distinct names in order changes none of them. -/
theorem lookup_ofList {values : List (String × α)} (distinct : (values.map (·.1)).Nodup)
    (name : String) : (ofList values).lookup name = values.lookup name := by
  rw [lookup_ofList_eq_reverse, lookup_reverse distinct]

/-- A value that was left out is not found any more, and nothing else changes. -/
theorem lookup_erase (name wanted : String) (values : List (String × α)) :
    (erase name values).lookup wanted = if wanted = name then none else values.lookup wanted := by
  induction values with
  | nil => simp [erase]
  | cons entry rest ih =>
      obtain ⟨key, value⟩ := entry
      rw [erase] at ih
      rw [erase, List.filter_cons, lookup_cons]
      by_cases left : key = name
      · rw [if_neg (by simp [left]), ih, left]
        split <;> rfl
      · rw [if_pos (by simp [left]), lookup_cons, ih]
        by_cases same : wanted = key
        · rw [if_pos same, if_pos same, if_neg (same ▸ left)]
        · rw [if_neg same, if_neg same]

end Guidebook.Keyed
