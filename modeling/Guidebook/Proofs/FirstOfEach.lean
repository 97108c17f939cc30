import Guidebook.Backend.Basic

/-!
# The first item of each key

`Backend.keepFirst` reads a list once and carries the keys of the items before.
Its result is the list of the first items of all keys: the keys are those of the
list without their repetitions, and under each key stands the item that a search
from the start of the list finds.

Loops that keep first items carry a table from the keys to something of the kept
items.  `Tracks` says what such a table holds while the loop runs.
-/

namespace Guidebook.Backend

variable {α : Type} {key : α → String}

/-- What is kept stands in the list, in the same order. -/
theorem keepFirst_sublist (taken : List String) (items : List α) :
    (keepFirst key taken items).Sublist items := by
  induction items generalizing taken with
  | nil => exact .slnil
  | cons item rest ih =>
      rw [keepFirst]
      split
      · exact (ih taken).cons item
      · exact (ih (key item :: taken)).cons_cons item

theorem mem_of_mem_keepFirst {taken : List String} {items : List α} {item : α}
    (kept : item ∈ keepFirst key taken items) : item ∈ items :=
  (keepFirst_sublist taken items).subset kept

theorem key_not_mem_taken {taken : List String} {items : List α} {item : α}
    (kept : item ∈ keepFirst key taken items) : key item ∉ taken := by
  induction items generalizing taken with
  | nil => cases kept
  | cons first rest ih =>
      rw [keepFirst] at kept
      split at kept
      · exact ih kept
      · next fresh =>
          rcases List.mem_cons.mp kept with rfl | later
          · simpa using fresh
          · exact fun member => ih later (List.mem_cons_of_mem _ member)

theorem keepFirst_keys_nodup (taken : List String) (items : List α) :
    ((keepFirst key taken items).map key).Nodup := by
  induction items generalizing taken with
  | nil => exact .nil
  | cons item rest ih =>
      rw [keepFirst]
      split
      · exact ih taken
      · rw [List.map_cons, List.nodup_cons]
        refine ⟨?_, ih (key item :: taken)⟩
        intro member
        obtain ⟨other, kept, sameKey⟩ := List.mem_map.mp member
        exact key_not_mem_taken kept (by simp [sameKey])

/-- A search by key finds among the kept items what it finds among all. -/
theorem find?_keepFirst {taken : List String} {wanted : String} (fresh : wanted ∉ taken)
    (items : List α) :
    (keepFirst key taken items).find? (key · == wanted) =
      items.find? (key · == wanted) := by
  induction items generalizing taken with
  | nil => rfl
  | cons item rest ih =>
      rw [keepFirst, List.find?_cons]
      by_cases found : key item = wanted
      · subst found
        simp [fresh]
      · have passed : (key item == wanted) = false := by simp [found]
        rw [passed]
        split
        · exact ih fresh
        · rw [List.find?_cons, passed]
          apply ih
          simp [Ne.symm found, fresh]

/-- Where keys are distinct, a search for the key of an item finds the item. -/
theorem find?_eq_some_of_mem {items : List α} (distinct : (items.map key).Nodup) {item : α}
    (member : item ∈ items) : items.find? (key · == key item) = some item := by
  induction items with
  | nil => cases member
  | cons first rest ih =>
      rw [List.map_cons, List.nodup_cons] at distinct
      rw [List.find?_cons]
      rcases List.mem_cons.mp member with rfl | later
      · simp
      · have other : (key first == key item) = false := by
          rw [beq_eq_false_iff_ne]
          intro same
          exact distinct.1 (same ▸ List.mem_map_of_mem later)
        rw [other]
        exact ih distinct.2 later

/-- Of images, those of the first items are kept. -/
theorem keepFirst_map {β : Type} (image : β → α) (taken : List String) (items : List β) :
    keepFirst key taken (items.map image) =
      (keepFirst (fun item => key (image item)) taken items).map image := by
  induction items generalizing taken with
  | nil => rfl
  | cons item rest ih =>
      simp only [List.map_cons, keepFirst]
      split
      · exact ih taken
      · rw [List.map_cons, ih]

theorem keepFirst_id_eq_filter (taken names : List String) :
    keepFirst id taken names = (names.filter (!taken.contains ·)).eraseDups := by
  induction names generalizing taken with
  | nil => simp [keepFirst]
  | cons name rest ih =>
      rw [keepFirst, List.filter_cons]
      by_cases seen : taken.contains name
      · simp only [id, seen, Bool.not_true, if_true, ih, Bool.false_eq_true, if_false]
      · simp only [id, seen, Bool.not_false, if_true, Bool.false_eq_true, if_false]
        rw [List.eraseDups_cons, List.filter_filter, ih]
        congr 2
        apply List.filter_congr
        intro other _
        by_cases same : other = name <;> simp [same]

/-- Of names, the first of each are the names without their repetitions. -/
theorem keepFirst_id (names : List String) : keepFirst id [] names = names.eraseDups := by
  rw [keepFirst_id_eq_filter, List.filter_eq_self.mpr (by simp)]

/-- The keys that are kept are the keys of the list without their repetitions. -/
theorem keys_keepFirst (items : List α) :
    (keepFirst key [] items).map key = (items.map key).eraseDups := by
  rw [← keepFirst_id, keepFirst_map]
  rfl

/-- One more item at the end is kept if its key is new. -/
theorem keepFirst_concat (taken : List String) (items : List α) (last : α) :
    keepFirst key taken (items ++ [last]) =
      if key last ∈ taken ∨ key last ∈ items.map key then keepFirst key taken items
      else keepFirst key taken items ++ [last] := by
  induction items generalizing taken with
  | nil => simp [keepFirst]
  | cons item rest ih =>
      -- the first item decides alone unless it is new and has the key of the last
      rw [List.cons_append, keepFirst, keepFirst, ih, ih]
      by_cases seen : key item ∈ taken <;> by_cases sameKey : key last = key item <;>
        simp [seen, sameKey]
      split <;> rfl

theorem eq_of_key_eq {items : List α} (distinct : (items.map key).Nodup) {left right : α}
    (leftMember : left ∈ items) (rightMember : right ∈ items) (same : key left = key right) :
    left = right := by
  have found := find?_eq_some_of_mem distinct leftMember
  rw [same, find?_eq_some_of_mem distinct rightMember] at found
  exact (Option.some.inj found).symm

/-- Where keys are distinct, an item is the only one with its key. -/
theorem filter_key_eq_singleton {items : List α} (distinct : (items.map key).Nodup) {item : α}
    (member : item ∈ items) : items.filter (key · == key item) = [item] := by
  induction items with
  | nil => cases member
  | cons first rest ih =>
      rw [List.map_cons, List.nodup_cons] at distinct
      rw [List.filter_cons]
      rcases List.mem_cons.mp member with rfl | later
      · rw [if_pos (by simp), List.filter_eq_nil_iff.mpr]
        intro other otherMember same
        rw [beq_iff_eq] at same
        exact distinct.1 (same ▸ List.mem_map_of_mem otherMember)
      · rw [if_neg, ih distinct.2 later]
        rw [beq_iff_eq]
        intro same
        exact distinct.1 (same ▸ List.mem_map_of_mem later)

/-! ## First items of lists put together -/

/-- The keys of the items before leave out items, and change nothing else. -/
theorem keepFirst_eq_filter (taken : List String) (items : List α) :
    keepFirst key taken items =
      (keepFirst key [] items).filter fun item => !taken.contains (key item) := by
  induction items generalizing taken with
  | nil => rfl
  | cons item rest ih =>
      have passed := ih [key item]
      have fresh : ([] : List String).contains (key item) = false := rfl
      rw [keepFirst, keepFirst, fresh, if_neg Bool.false_ne_true, List.filter_cons]
      by_cases seen : taken.contains (key item)
      · rw [if_pos seen, if_neg (by simpa using seen), ih, passed, List.filter_filter]
        apply List.filter_congr
        intro other _
        by_cases same : key other = key item
        · simp [same, List.contains_iff_mem.mp seen]
        · simp [same]
      · rw [if_neg seen, if_pos (by simpa using seen), ih, passed, List.filter_filter]
        congr 1
        apply List.filter_congr
        intro other _
        simp [Bool.and_comm]

theorem keepFirst_congr_taken {left right : List String}
    (same : ∀ name, name ∈ left ↔ name ∈ right) (items : List α) :
    keepFirst key left items = keepFirst key right items := by
  rw [keepFirst_eq_filter left, keepFirst_eq_filter right]
  apply List.filter_congr
  intro item _
  simp [same]

theorem keepFirst_append (taken : List String) (left right : List α) :
    keepFirst key taken (left ++ right) =
      keepFirst key taken left ++ keepFirst key (left.map key ++ taken) right := by
  induction left generalizing taken with
  | nil => rfl
  | cons item rest ih =>
      rw [List.cons_append, keepFirst, keepFirst]
      split
      · next seen =>
          rw [ih]
          congr 1
          apply keepFirst_congr_taken
          have held := List.contains_iff_mem.mp seen
          grind
      · rw [ih, List.cons_append]
        congr 2
        apply keepFirst_congr_taken
        grind

theorem keepFirst_of_nodup {items : List α} (distinct : (items.map key).Nodup) :
    keepFirst key [] items = items := by
  induction items with
  | nil => rfl
  | cons item rest ih =>
      rw [List.map_cons, List.nodup_cons] at distinct
      rw [keepFirst, if_neg (by simp), keepFirst_eq_filter, ih distinct.2,
        List.filter_eq_self.mpr]
      intro other member
      have different : key other ≠ key item :=
        fun same => distinct.1 (same ▸ List.mem_map_of_mem member)
      simpa using different

/-- First items are their own first items. -/
theorem keepFirst_keepFirst (taken : List String) (items : List α) :
    keepFirst key taken (keepFirst key taken items) = keepFirst key taken items := by
  rw [keepFirst_eq_filter taken (keepFirst key taken items),
    keepFirst_of_nodup (keepFirst_keys_nodup taken items), List.filter_eq_self]
  intro item kept
  simpa using key_not_mem_taken kept

/-- Lists with the same first items have the same keys. -/
theorem mem_keys_iff_of_keepFirst_eq {left right : List α}
    (same : keepFirst key [] left = keepFirst key [] right) (name : String) :
    name ∈ left.map key ↔ name ∈ right.map key := by
  rw [← List.mem_eraseDups, ← List.mem_eraseDups (l := right.map key), ← keys_keepFirst, same,
    keys_keepFirst]

/-- Of lists put together the first items are those of their first items. -/
theorem keepFirst_flatMap_congr {β : Type} {left right : β → List α} {lists : List β}
    (same : ∀ list ∈ lists, keepFirst key [] (left list) = keepFirst key [] (right list))
    (taken : List String) :
    keepFirst key taken (lists.flatMap left) = keepFirst key taken (lists.flatMap right) := by
  induction lists generalizing taken with
  | nil => rfl
  | cons list rest ih =>
      have here := same list List.mem_cons_self
      rw [List.flatMap_cons, List.flatMap_cons, keepFirst_append, keepFirst_append,
        keepFirst_eq_filter taken (left list), here, ← keepFirst_eq_filter,
        ih fun other member => same other (List.mem_cons_of_mem list member)]
      congr 1
      apply keepFirst_congr_taken
      intro name
      rw [List.mem_append, List.mem_append, mem_keys_iff_of_keepFirst_eq here]

/-! ## Items that are looked up by their keys -/

variable {find? : String → Option α}

/-- The keys of what is found are the wanted keys under which something is found. -/
theorem keys_filterMap (keyed : ∀ wanted item, find? wanted = some item → key item = wanted)
    (wanted : List String) :
    (wanted.filterMap find?).map key = wanted.filter fun name => (find? name).isSome := by
  induction wanted with
  | nil => rfl
  | cons name rest ih =>
      rw [List.filterMap_cons, List.filter_cons]
      cases found : find? name with
      | none => simpa using ih
      | some item => simpa [keyed name item found] using ih

/-- Among what is found, a search for a wanted key finds what is found under it. -/
theorem find?_filterMap (keyed : ∀ wanted item, find? wanted = some item → key item = wanted)
    {wanted : List String} {name : String} (member : name ∈ wanted) :
    (wanted.filterMap find?).find? (key · == name) = find? name := by
  induction wanted with
  | nil => cases member
  | cons first rest ih =>
      rw [List.filterMap_cons]
      by_cases same : first = name
      · subst same
        cases found : find? first with
        | none =>
            -- the name may be wanted again, but nothing is found under it then either
            rw [List.find?_eq_none]
            intro item held
            obtain ⟨other, -, otherFound⟩ := List.mem_filterMap.mp held
            rw [beq_iff_eq, keyed other item otherFound]
            rintro rfl
            rw [found] at otherFound
            cases otherFound
        | some item => simp [keyed first item found]
      · have later := ih ((List.mem_cons.mp member).resolve_left (Ne.symm same))
        cases found : find? first with
        | none => exact later
        | some item =>
            rw [List.find?_cons, keyed first item found, beq_eq_false_iff_ne.mpr same]
            exact later

/-! ## Tables of first items -/

variable {β : Type} {value : α → β}

/-- The table holds, under each key of the items, the value of the first item with
that key, and nothing else. -/
def Tracks (key : α → String) (value : α → β) (items : List α)
    (table : List (String × β)) : Prop :=
  ∀ wanted, table.lookup wanted = (items.find? (key · == wanted)).map value

theorem Tracks.nil : Tracks key value [] [] := fun _ => rfl

theorem Tracks.isSome_iff {items : List α} {table : List (String × β)}
    (tracks : Tracks key value items table) (wanted : String) :
    (table.lookup wanted).isSome ↔ wanted ∈ items.map key := by
  rw [tracks wanted]
  simp

/-- A table without a key has seen no item with it. -/
theorem Tracks.fresh {items : List α} {table : List (String × β)}
    (tracks : Tracks key value items table) {wanted : String}
    (absent : table.lookup wanted = none) : wanted ∉ items.map key := by
  intro seen
  simpa [absent] using (tracks.isSome_iff wanted).mpr seen

/-- An item whose key is in the table changes nothing. -/
theorem Tracks.pass {items : List α} {table : List (String × β)}
    (tracks : Tracks key value items table) (item : α) {held : β}
    (present : table.lookup (key item) = some held) :
    Tracks key value (items ++ [item]) table := by
  intro wanted
  rw [tracks wanted, List.find?_append]
  by_cases same : key item = wanted
  · subst same
    rw [tracks (key item)] at present
    obtain ⟨first, found, -⟩ := Option.map_eq_some_iff.mp present
    rw [found, Option.some_or]
  · simp [same]

/-- An item with a new key is entered. -/
theorem Tracks.enter {items : List α} {table : List (String × β)}
    (tracks : Tracks key value items table) (item : α)
    (absent : table.lookup (key item) = none) :
    Tracks key value (items ++ [item]) (Keyed.insert (key item) (value item) table) := by
  intro wanted
  rw [Keyed.lookup_insert, tracks wanted, List.find?_append]
  by_cases same : wanted = key item
  · subst same
    rw [tracks (key item), Option.map_eq_none_iff] at absent
    simp [absent]
  · simp [same, Ne.symm same]

/-- An item is not kept if its key is in the table. -/
theorem Tracks.keepFirst_pass {items : List α} {table : List (String × β)}
    (tracks : Tracks key value items table) (item : α) {held : β}
    (present : table.lookup (key item) = some held) :
    keepFirst key [] (items ++ [item]) = keepFirst key [] items := by
  have seen := (tracks.isSome_iff (key item)).mp (Option.isSome_of_eq_some present)
  rw [keepFirst_concat, if_pos (.inr seen)]

/-- An item is kept if its key is not in the table. -/
theorem Tracks.keepFirst_enter {items : List α} {table : List (String × β)}
    (tracks : Tracks key value items table) (item : α)
    (absent : table.lookup (key item) = none) :
    keepFirst key [] (items ++ [item]) = keepFirst key [] items ++ [item] := by
  rw [keepFirst_concat, if_neg]
  rintro (taken | seen)
  · cases taken
  · exact tracks.fresh absent seen

end Guidebook.Backend
