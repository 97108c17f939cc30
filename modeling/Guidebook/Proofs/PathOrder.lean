import Guidebook.Files.Path
import Mathlib.Data.List.Lex
import Mathlib.Data.Prod.Lex
import Mathlib.Data.String.Basic

/-!
# Paths by their components

Paths are compared by their components, not by their texts: they are the same when these
are, and are put in the lexicographic order of these.  A name that is put after a path adds
at most one component.
-/

namespace Guidebook.Path

/-! ## The order of paths -/

namespace Component

/-- A component by its form and its text. -/
def key (component : Component) : ℕ ×ₗ String := toLex (component.rank, component.text)

theorem key_injective : Function.Injective key := by
  intro left right same
  cases left <;> cases right <;> simp_all [key, rank, text]

/-- Components are in the order of their forms, and names in that of their texts. -/
instance : LinearOrder Component := LinearOrder.lift' key key_injective

theorem precedes_iff {left right : Component} : left.precedes right = true ↔ left < right := by
  change _ ↔ key left < key right
  simp [precedes, key, Prod.Lex.toLex_lt_toLex]

end Component

theorem componentsPrecede_iff {left right : List Component} :
    componentsPrecede left right = true ↔ left < right := by
  induction left generalizing right with
  | nil => cases right <;> simp [componentsPrecede]
  | cons first lefts ih =>
      cases right with
      | nil => simp [componentsPrecede]
      | cons second rights =>
          rw [componentsPrecede, List.cons_lt_cons_iff]
          simp [Component.precedes_iff, ih]

variable {left right path : Path}

theorem same_iff : left.same right = true ↔ left.components = right.components := by
  rw [same, beq_iff_eq]

theorem notAfter_iff : left.notAfter right = true ↔ left.components ≤ right.components := by
  rw [notAfter, Bool.not_eq_true', ← Bool.not_eq_true, componentsPrecede_iff, not_lt]

/-- Sorted paths ascend in the order of their components. -/
theorem pairwise_mergeSort_notAfter (paths : List Path) :
    (paths.mergeSort notAfter).Pairwise fun left right => left.components ≤ right.components := by
  have sorted :
      (paths.mergeSort notAfter).Pairwise fun left right => notAfter left right = true := by
    apply List.pairwise_mergeSort
    · intro first second third
      simp only [notAfter_iff]
      exact le_trans
    · intro first second
      simp only [Bool.or_eq_true, notAfter_iff]
      exact le_total first.components second.components
  exact sorted.imp notAfter_iff.mp

/-! ## Names after a path -/

theorem isAbsolute_iff : path.isAbsolute = true ↔ ∃ rest, path.text.toList = '/' :: rest := by
  rw [isAbsolute, beq_iff_eq, List.head?_eq_some_iff]

/-- The pieces of a text that ends in a separator. -/
theorem pieces_concat_separator (text : List Char) :
    Text.pieces '/' (text ++ ['/']) = Text.pieces '/' text ++ [[]] :=
  Text.pieces_append_separator '/' text []

/-- The text of a path with a name after it: the name stands after a separator, of which the
path may end in one. -/
theorem exists_join_eq (absolute : path.isAbsolute = true) {name : String}
    (relative : '/' ∉ name.toList) :
    (∃ more, (path.join name).text = path.text ++ more) ∧
    ∃ directory, (path.text.toList = directory ∨ path.text.toList = directory ++ ['/']) ∧
      (path.join name).text.toList = directory ++ '/' :: name.toList := by
  have below : (Path.mk name).isAbsolute = false := by
    rw [← Bool.not_eq_true, isAbsolute_iff]
    rintro ⟨rest, starts⟩
    exact relative (by simp [starts])
  obtain ⟨rest, starts⟩ := isAbsolute_iff.mp absolute
  have nonempty : path.text.isEmpty = false := by
    rw [← Bool.not_eq_true, String.isEmpty_iff]
    intro empty
    rw [empty] at starts
    cases starts
  rw [join, below, if_neg Bool.false_ne_true, nonempty, Bool.false_or]
  split
  · next ended =>
      rw [beq_iff_eq] at ended
      have shape := List.dropLast_append_getLast? '/' ended
      refine ⟨⟨name, rfl⟩, path.text.toList.dropLast, .inr shape.symm, ?_⟩
      rw [String.toList_append, ← shape]
      simp
  · exact ⟨⟨"/" ++ name, String.append_assoc⟩, path.text.toList, .inl rfl, by simp⟩

theorem isAbsolute_join (absolute : path.isAbsolute = true) (name : String) :
    (path.join name).isAbsolute = true := by
  obtain ⟨rest, starts⟩ := isAbsolute_iff.mp absolute
  rw [join]
  split
  · assumption
  · split <;> exact isAbsolute_iff.mpr ⟨_, by simp [starts]; rfl⟩

/-- A name after a path is the component after those of the path, if it is one. -/
theorem components_join (absolute : path.isAbsolute = true) {name : String}
    (relative : '/' ∉ name.toList) :
    (path.join name).components = path.components ++ (componentOf? name.toList).toList := by
  obtain ⟨-, directory, shape, joined⟩ := exists_join_eq absolute relative
  have own : (Text.pieces '/' path.text.toList).filterMap componentOf? =
      (Text.pieces '/' directory).filterMap componentOf? := by
    rcases shape with shape | shape
    · rw [shape]
    · rw [shape, pieces_concat_separator, List.filterMap_append]
      simp [componentOf?]
  rw [components, components, isAbsolute_join absolute, absolute, if_pos rfl, joined,
    Text.pieces_append_separator, Text.pieces_of_not_mem relative, List.filterMap_append, own]
  cases added : componentOf? name.toList <;> simp [added]

end Guidebook.Path
