import Guidebook.Proofs.Lookups
import Mathlib.Data.List.Induction

/-!
# Places that paths lead to

Two paths with different components can lead to one place, since `..` leads back to the
directory above.  The names that are left of an absolute path once each `..` has taken away the
name before it are the way down to the place of the path: what stands at a path is told by
them alone.
-/

namespace Guidebook

namespace Path

/-- The way down from the root after one more component. -/
def Component.lead (names : List String) : Component → List String
  | .root | .current => names
  | .parent => names.dropLast
  | .name text => names ++ [text]

/-- The way down from the root of the files to the place of an absolute path. -/
def resolved (path : Path) : List String := path.components.foldl Component.lead []

theorem componentOf?_toList (name : String) :
    componentOf? name.toList =
      if name = "" ∨ name = "." then none
      else if name = ".." then some .parent
      else some (.name name) := by
  rw [componentOf?, String.ofList_toList]
  simp only [← String.toList_inj]
  rfl

theorem resolved_eq_foldl {path : Path} (absolute : path.isAbsolute = true) :
    path.resolved = ((FileTree.namesOf path.text).filterMap fun name =>
      componentOf? name.toList).foldl Component.lead [] := by
  rw [resolved, components, absolute, if_pos rfl, List.foldl_append, FileTree.namesOf,
    List.filterMap_map]
  simp only [Function.comp_def, String.toList_ofList]
  rfl

end Path

namespace FileTree.Spot

/-- A name that leads down. -/
def IsDownward (name : String) : Prop := ¬(name = "" ∨ name = ".") ∧ name ≠ ".."

/-- Names that lead down leave the directories above for as many new ones. -/
theorem Walk.length_above {start final : Spot} {names : List String} (walk : Walk start names final)
    (downward : ∀ name ∈ names, IsDownward name) :
    final.above.length = start.above.length + names.length := by
  induction walk with
  | nil => rfl
  | cons step later ih =>
      rw [List.forall_mem_cons] at downward
      obtain ⟨⟨loud, forward⟩, downward⟩ := downward
      rw [ih downward, List.length_cons]
      cases step with
      | stay silent => exact absurd silent loud
      | top | up => exact absurd rfl forward
      | down => exact Nat.add_right_comm _ 1 _

/-- What a name leads to is reached by the way down as well. -/
theorem Step.exists_walk_lead {tree : FileTree} {names : List String} {spot final : Spot}
    {name : String} (walk : Walk ⟨[], tree⟩ names spot) (downward : ∀ name ∈ names, IsDownward name)
    (step : Step spot name final) :
    let way := (Path.componentOf? name.toList).elim names (Path.Component.lead names)
    Walk ⟨[], tree⟩ way final ∧ ∀ name ∈ way, IsDownward name := by
  rw [Path.componentOf?_toList]
  have depth := walk.length_above downward
  cases step with
  | stay silent =>
      rw [if_pos silent]
      exact ⟨walk, downward⟩
  | top =>
      have start : names = [] := List.length_eq_zero_iff.mp (by simpa using depth.symm)
      subst start
      exact ⟨walk, downward⟩
  | @up above parent entries =>
      -- the last name on the way down led from the directory above
      rcases List.eq_nil_or_concat names with rfl | ⟨before, last, rfl⟩
      · simp at depth
      · rw [List.concat_eq_append, List.forall_mem_append, List.forall_mem_singleton] at downward
        rw [List.concat_eq_append, walk_append_iff] at walk
        obtain ⟨parent, walk, into⟩ := walk
        rw [walk_singleton_iff] at into
        have up : Path.Component.lead (before.concat last) .parent = before := by
          rw [Path.Component.lead, List.concat_eq_append, List.dropLast_concat]
        change Walk _ (Path.Component.lead _ .parent) _ ∧
          ∀ name ∈ Path.Component.lead _ .parent, IsDownward name
        rw [up]
        cases into with
        | stay silent => exact absurd silent downward.2.1
        | up => exact absurd rfl downward.2.2
        | down => exact ⟨walk, downward.1⟩
  | down loud forward short held =>
      rw [if_neg loud, if_neg forward]
      constructor
      · exact walk_append_iff.mpr ⟨_, walk, walk_singleton_iff.mpr (.down loud forward short held)⟩
      · exact List.forall_mem_append.mpr ⟨downward, List.forall_mem_singleton.mpr ⟨loud, forward⟩⟩

/-- What names lead to is reached by the way down that is left of them. -/
theorem Walk.exists_walk_foldl_lead {tree : FileTree} {names : List String} {final : Spot}
    (walk : Walk ⟨[], tree⟩ names final) :
    let way := (names.filterMap fun name =>
      Path.componentOf? name.toList).foldl Path.Component.lead []
    Walk ⟨[], tree⟩ way final ∧ ∀ name ∈ way, IsDownward name := by
  induction names using List.reverseRecOn generalizing final with
  | nil => exact ⟨walk, nofun⟩
  | append_singleton names last ih =>
      obtain ⟨spot, before, into⟩ := walk_append_iff.mp walk
      rw [walk_singleton_iff] at into
      have reached := into.exists_walk_lead (ih before).1 (ih before).2
      rw [List.filterMap_append, List.foldl_append, List.filterMap_cons, List.filterMap_nil]
      cases added : Path.componentOf? last.toList <;> rw [added] at reached <;> exact reached

end FileTree.Spot

namespace Surroundings

variable {around : Surroundings} {left right : Path} {tree other : FileTree}

/-- What stands at a path is told by the way down to its place. -/
theorem look_eq_of_resolved_eq (absolute : left.isAbsolute = true)
    (absoluteRight : right.isAbsolute = true) (same : left.resolved = right.resolved)
    (found : around.look left = .ok tree) (foundRight : around.look right = .ok other) :
    tree = other := by
  obtain ⟨-, -, above, walk⟩ := (look_eq_ok_iff absolute).mp found
  obtain ⟨-, -, aboveRight, walkRight⟩ := (look_eq_ok_iff absoluteRight).mp foundRight
  have down := walk.exists_walk_foldl_lead.1
  have downRight := walkRight.exists_walk_foldl_lead.1
  rw [← Path.resolved_eq_foldl absolute] at down
  rw [← Path.resolved_eq_foldl absoluteRight, ← same] at downRight
  have reached := FileTree.Spot.follow_eq_ok_iff.mpr ⟨above, down⟩
  cases reached.symm.trans (FileTree.Spot.follow_eq_ok_iff.mpr ⟨aboveRight, downRight⟩)
  rfl

end Surroundings

end Guidebook
