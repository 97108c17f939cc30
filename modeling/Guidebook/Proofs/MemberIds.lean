import Guidebook.Backend.Basic
import Mathlib.Data.List.Induction
import Mathlib.Data.List.Nodup

/-!
# Identifiers of members

The members of an aggregate get their identifiers from the first to the last: a
name that is empty or already an identifier is replaced by one made of the
member's place.  The replacement is not looked up among the identifiers before, so
a member that was named like a later place shares its identifier with the member
there.  This module says when identifiers are distinct, and when they are the
names.
-/

namespace Guidebook.Backend

/-- The identifier that stands for a place. -/
def placeId (place : Nat) : String := s!"backend_{place}"

theorem placeId_ne_empty (place : Nat) : placeId place ≠ "" := by
  intro same
  have start : (placeId place).toList = "backend_".toList ++ (toString place).toList :=
    String.toList_append
  rw [same] at start
  cases start

theorem placeId_injective {left right : Nat} (same : placeId left = placeId right) :
    left = right := by
  have texts : left.repr = right.repr := (String.append_right_inj "backend_").mp same
  rw [Nat.repr_eq_ofList_toDigits, Nat.repr_eq_ofList_toDigits, String.ofList_inj] at texts
  rw [← Nat.ofDigitChars_ten_toDigits (n := left), texts, Nat.ofDigitChars_ten_toDigits]

/-- The identifier of a member at a place, when some are taken. -/
def idFor (taken : List String) (place : Nat) (name : String) : String :=
  if name = "" ∨ name ∈ taken then placeId place else name

theorem idFor_ne_empty (taken : List String) (place : Nat) (name : String) :
    idFor taken place name ≠ "" := by
  unfold idFor
  split
  · exact placeId_ne_empty place
  · next kept => exact fun empty => kept (.inl empty)

/-- An identifier is new if its member keeps its name, or if nothing is named like its
place. -/
theorem idFor_mem_iff {taken : List String} {place : Nat} {name : String} :
    idFor taken place name ∈ taken ↔
      (name = "" ∨ name ∈ taken) ∧ placeId place ∈ taken := by
  unfold idFor
  split
  · next replaced => simp [replaced]
  · next kept =>
      constructor
      · intro seen
        exact absurd (.inr seen) kept
      · rintro ⟨replaced, -⟩
        exact absurd replaced kept

theorem assignIds_cons (taken : List String) (index : Nat) (name : String)
    (names : List String) :
    assignIds taken index (name :: names) =
      idFor taken index name ::
        assignIds (idFor taken index name :: taken) (index + 1) names := by
  simp only [assignIds, idFor, placeId, String.isEmpty_iff, Bool.or_eq_true,
    List.contains_iff_mem]

theorem assignIds_concat (taken : List String) (index : Nat) (names : List String)
    (last : String) :
    assignIds taken index (names ++ [last]) =
      assignIds taken index names ++
        [idFor ((assignIds taken index names).reverse ++ taken) (index + names.length) last] := by
  induction names generalizing taken index with
  | nil => rw [List.nil_append, assignIds_cons]; rfl
  | cons name names ih =>
      rw [List.cons_append, assignIds_cons, ih, assignIds_cons]
      simp [Nat.add_assoc, Nat.add_comm 1]

/-- The identifier of a last member depends on the identifiers before it, and does not change
them. -/
theorem ids_concat (names : List String) (last : String) :
    assignIds [] 0 (names ++ [last]) =
      assignIds [] 0 names ++ [idFor (assignIds [] 0 names) names.length last] := by
  rw [assignIds_concat]
  simp [idFor]

/-- An identifier is a name or stands for a place. -/
theorem mem_or_place_of_mem_ids {names : List String} {id : String}
    (assigned : id ∈ assignIds [] 0 names) :
    id ∈ names ∨ ∃ place < names.length, id = placeId place := by
  induction names using List.reverseRecOn with
  | nil => cases assigned
  | append_singleton names last ih =>
      rw [ids_concat] at assigned
      rw [List.length_append, List.length_singleton]
      rcases List.mem_append.mp assigned with before | new
      · rcases ih before with named | ⟨place, below, same⟩
        · exact .inl (List.mem_append_left [last] named)
        · exact .inr ⟨place, by omega, same⟩
      · rw [List.mem_singleton.mp new, idFor]
        split
        · exact .inr ⟨names.length, by omega, rfl⟩
        · exact .inl (by simp)

/-- A name is an identifier: that of its member, or one before it. -/
theorem mem_ids_of_mem {names : List String} {name : String} (nonempty : name ≠ "")
    (named : name ∈ names) : name ∈ assignIds [] 0 names := by
  induction names using List.reverseRecOn with
  | nil => cases named
  | append_singleton names last ih =>
      rw [ids_concat, List.mem_append]
      rcases List.mem_append.mp named with before | new
      · exact .inl (ih before)
      · rw [List.mem_singleton.mp new] at nonempty ⊢
        by_cases seen : last ∈ assignIds [] 0 names
        · exact .inl seen
        · exact .inr (by simp [idFor, nonempty, seen])

/-- A place's identifier is taken before the place exactly by a member with that name. -/
theorem placeId_mem_ids_iff (names : List String) :
    placeId names.length ∈ assignIds [] 0 names ↔ placeId names.length ∈ names := by
  constructor
  · intro assigned
    rcases mem_or_place_of_mem_ids assigned with named | ⟨place, below, same⟩
    · exact named
    · have := placeId_injective same
      omega
  · exact mem_ids_of_mem (placeId_ne_empty names.length)

theorem ids_concat_nodup_iff (names : List String) (last : String) :
    (assignIds [] 0 (names ++ [last])).Nodup ↔
      (assignIds [] 0 names).Nodup ∧
        ((last = "" ∨ last ∈ assignIds [] 0 names) → placeId names.length ∉ names) := by
  rw [ids_concat, ← List.concat_eq_append, List.nodup_concat, idFor_mem_iff,
    placeId_mem_ids_iff, not_and, and_comm]

/-- Identifiers are distinct as long as no member whose name is replaced comes after one that
is named like its place. -/
theorem ids_nodup_iff {names : List String} :
    (assignIds [] 0 names).Nodup ↔ ∀ before name after, names = before ++ name :: after →
      (name = "" ∨ name ∈ assignIds [] 0 before) → placeId before.length ∉ before := by
  induction names using List.reverseRecOn with
  | nil => simp [assignIds]
  | append_singleton names last ih =>
      rw [ids_concat_nodup_iff, ih]
      constructor
      · rintro ⟨earlier, new⟩ before name after shape replaced
        -- the member is the last one, or stands among those before it
        rcases List.eq_nil_or_concat after with rfl | ⟨others, other, rfl⟩
        · obtain ⟨rfl, same⟩ := List.append_inj' shape rfl
          cases same
          exact new replaced
        · rw [List.concat_eq_append, ← List.cons_append, ← List.append_assoc] at shape
          obtain ⟨rfl, -⟩ := List.append_inj' shape rfl
          exact earlier before name others rfl replaced
      · intro clear
        constructor
        · rintro before name after rfl
          exact clear before name (after ++ [last]) (by simp)
        · exact clear names last [] rfl

theorem ids_ne_empty {names : List String} {id : String}
    (assigned : id ∈ assignIds [] 0 names) : id ≠ "" := by
  induction names using List.reverseRecOn with
  | nil => cases assigned
  | append_singleton names last ih =>
      rw [ids_concat] at assigned
      rcases List.mem_append.mp assigned with before | new
      · exact ih before
      · rw [List.mem_singleton.mp new]
        exact idFor_ne_empty _ _ last

/-- Distinct names that are not empty are the identifiers. -/
theorem ids_eq_names {names : List String} (distinct : names.Nodup)
    (nonempty : ∀ name ∈ names, name ≠ "") : assignIds [] 0 names = names := by
  induction names using List.reverseRecOn with
  | nil => rfl
  | append_singleton names last ih =>
      rw [← List.concat_eq_append, List.nodup_concat] at distinct
      have earlier := ih distinct.2 fun name member =>
        nonempty name (List.mem_append_left [last] member)
      rw [ids_concat, earlier, idFor, if_neg]
      simp [distinct.1, nonempty last (by simp)]

theorem memberIds_eq_names {members : List Backend} (distinct : (members.map name).Nodup)
    (nonempty : ∀ member ∈ members, member.name ≠ "") : memberIds members = members.map name := by
  apply ids_eq_names distinct
  intro name named
  obtain ⟨member, held, rfl⟩ := List.mem_map.mp named
  exact nonempty member held

/-- The identifiers of members are not empty.  They are distinct exactly when no member
whose name is empty or an identifier before it comes after a member that is named like its
place. -/
theorem memberIds_nodup_iff (members : List Backend) :
    (∀ id ∈ memberIds members, id ≠ "") ∧
    ((memberIds members).Nodup ↔ ∀ before member after, members = before ++ member :: after →
      (member.name = "" ∨ member.name ∈ memberIds before) →
        ∀ other ∈ before, other.name ≠ placeId before.length) := by
  refine ⟨fun id => ids_ne_empty, ?_⟩
  rw [memberIds, ids_nodup_iff]
  constructor
  · rintro clear before member after rfl replaced other held same
    refine clear (before.map name) member.name (after.map name) (by simp) replaced ?_
    rw [List.length_map, ← same]
    exact List.mem_map_of_mem held
  · intro clear before name after shape replaced named
    obtain ⟨first, rest, rfl, rfl, restShape⟩ := List.map_eq_append_iff.mp shape
    obtain ⟨member, later, rfl, rfl, rfl⟩ := List.map_eq_cons_iff.mp restShape
    obtain ⟨other, held, same⟩ := List.mem_map.mp named
    rw [List.length_map] at same
    exact clear first member later rfl replaced other held same

/-- A member that is named like the place of one without a name shares its identifier. -/
theorem memberIds_clash :
    let member (name : String) : Backend :=
      .leaf { name, summary := .complete [], details := fun _ => .complete [] }
    memberIds [member "backend_1", member ""] = ["backend_1", "backend_1"] ∧
      ¬(memberIds [member "backend_1", member ""]).Nodup := by
  decide

end Guidebook.Backend
