import Guidebook.Proofs.PathOrder
import Guidebook.Proofs.Validity

/-!
# What a root directory stands for

The root directory of a backend is written as a path, in which `~` stands for the home
directory.  This module says which path is meant, form by form, and shows that it is the one
that is used, but for paths whose first name merely starts with `~`: there the `~` is taken for
the home directory as well.
-/

namespace Guidebook

/-- Where nothing is put after a path, it stays the same path. -/
theorem Path.same_join_empty (path : Path) : path.same (path.join "") = true := by
  have relative : (Path.mk "").isAbsolute = false := rfl
  rw [same_iff, join, relative, if_neg Bool.false_ne_true]
  split
  · rw [String.append_empty]
  · next unended =>
      have nonempty : path.text.toList ≠ [] := by
        intro empty
        apply unended
        rw [String.toList_eq_nil_iff.mp empty]
        rfl
      obtain ⟨first, others, cut⟩ :=
        List.exists_cons_of_ne_nil (Text.pieces_ne_nil '/' path.text.toList)
      have absolute : (Path.mk (path.text ++ "/" ++ "")).isAbsolute = path.isAbsolute := by
        obtain ⟨c, rest, shape⟩ := List.exists_cons_of_ne_nil nonempty
        simp [isAbsolute, shape]
      have text : (path.text ++ "/" ++ "").toList = path.text.toList ++ ['/'] := by simp
      rw [components, components, absolute, text, pieces_concat_separator, List.filterMap_append,
        cut]
      simp [componentOf?]

namespace Config

variable {around : Surroundings} {base home meant : Path} {root : String} {name : List Char}

/-- A separator of paths, or the one that is in use elsewhere. -/
def isSlash (c : Char) : Bool := c == '/' || c == '\\'

/-- The path that a root directory stands for; `base` is the directory of the configuration. -/
inductive StandsFor (base home : Path) : (root : String) → Path → Prop where
  | base : StandsFor base home "" base
  | home : StandsFor base home "~" home
  | belowHome {root : String} {name : List Char} (shape : root.toList = '~' :: '/' :: name) :
      StandsFor base home root (home.join (String.ofList (name.dropWhile isSlash)))
  | absolute {root : String} (absolute : (Path.mk root).isAbsolute = true) :
      StandsFor base home root ⟨root⟩
  | relative {root : String} (nonempty : root ≠ "")
      (relative : (Path.mk root).isAbsolute = false) (away : root ≠ "~")
      (outside : ¬['~', '/'] <+: root.toList) : StandsFor base home root (base.join root)

/-- The first name of the root directory merely starts with `~`. -/
def StartsWithTilde (root : String) : Prop :=
  ∃ c rest, root.toList = '~' :: c :: rest ∧ c ≠ '/'

/-! ## Forms of roots -/

theorem exists_standsFor (base home : Path) (root : String) :
    ∃ meant, StandsFor base home root meant := by
  by_cases empty : root = ""
  · exact ⟨base, empty ▸ .base⟩
  · by_cases alone : root = "~"
    · exact ⟨home, alone ▸ .home⟩
    · by_cases below : ['~', '/'] <+: root.toList
      · obtain ⟨name, shape⟩ := below
        exact ⟨_, .belowHome shape.symm⟩
      · cases absolute : (Path.mk root).isAbsolute with
        | true => exact ⟨_, .absolute absolute⟩
        | false => exact ⟨_, .relative empty absolute alone below⟩

/-- A `~` at the start leads to the home directory, whatever follows. -/
theorem exists_expandRoot_tilde (known : around.home = some home) (base : Path)
    (shape : root.toList = '~' :: name) :
    ∃ path, expandRoot around base root = .ok path ∧
      path.same (home.join (String.ofList (name.dropWhile isSlash))) = true := by
  -- Where nothing is left, the home directory itself is taken, without the `/` of a join.
  cases cut : name.dropWhile isSlash with
  | nil =>
      refine ⟨home, ?_, home.same_join_empty⟩
      unfold isSlash at cut
      simp only [expandRoot, shape, known, cut]
  | cons c rest =>
      refine ⟨home.join (String.ofList (c :: rest)), ?_, Path.same_iff.mpr rfl⟩
      unfold isSlash at cut
      simp only [expandRoot, shape, known, cut]

theorem expandRoot_of_ne_tilde (base : Path) (nonempty : root ≠ "")
    (other : root.toList.head? ≠ some '~') :
    expandRoot around base root = .ok (base.join root) := by
  unfold expandRoot
  split
  · next empty => exact absurd (String.toList_eq_nil_iff.mp empty) nonempty
  · next rest shape => exact absurd (by rw [shape]; rfl) other
  · rfl

/-- A root directory is expanded to the path that it stands for. -/
theorem StandsFor.exists_expandRoot (known : around.home = some home)
    (plain : ¬StartsWithTilde root) (stands : StandsFor base home root meant) :
    ∃ path, expandRoot around base root = .ok path ∧ path.same meant = true := by
  cases stands with
  | base => exact ⟨base, rfl, Path.same_iff.mpr rfl⟩
  | home =>
      refine ⟨home, ?_, Path.same_iff.mpr rfl⟩
      unfold expandRoot
      rw [known]
      rfl
  | belowHome shape => simpa [isSlash] using exists_expandRoot_tilde known base shape
  | absolute absolute =>
      obtain ⟨rest, shape⟩ := Path.isAbsolute_iff.mp absolute
      have nonempty : root ≠ "" := by
        rintro rfl
        cases shape
      have other : root.toList.head? ≠ some '~' := by
        change root.toList = _ at shape
        simp [shape]
      refine ⟨base.join root, expandRoot_of_ne_tilde base nonempty other, ?_⟩
      rw [Path.join, if_pos absolute]
      exact Path.same_iff.mpr rfl
  | relative nonempty relative away outside =>
      refine ⟨base.join root, expandRoot_of_ne_tilde base nonempty ?_, Path.same_iff.mpr rfl⟩
      -- A `~` at the start would be the whole first name or merely start it.
      intro starts
      obtain ⟨name, shape⟩ := List.head?_eq_some_iff.mp starts
      cases name with
      | nil => exact away (String.toList_inj.mp shape)
      | cons c rest =>
          by_cases slash : c = '/'
          · subst slash
            exact outside ⟨rest, shape.symm⟩
          · exact plain ⟨c, rest, shape, slash⟩

/-- The root directory of a backend is the path that it stands for, if there is a directory at
this path, and else an error.  Where its first name merely starts with `~`, what follows the `~`
and its slashes is looked for below the home directory. -/
theorem resolveRoot_by_form (known : around.home = some home) (base : Path) (root : String) :
    ∃ path,
      resolveRoot around base root = (if around.isDirectory path then .ok path else .error <|
        .config s!"rootDir '{root}' resolves to {path.text}, which is not an existing directory") ∧
      (∃ meant, StandsFor base home root meant) ∧
      (¬StartsWithTilde root → ∀ meant, StandsFor base home root meant →
        path.same meant = true) ∧
      ∀ name, root.toList = '~' :: name →
        path.same (home.join (String.ofList (name.dropWhile isSlash))) = true := by
  obtain ⟨path, expands⟩ : ∃ path, expandRoot around base root = .ok path := by
    apply (expandRoot_cases around base root).resolve_right
    intro ⟨_, unknown, _⟩
    rw [known] at unknown
    cases unknown
  refine ⟨path, resolveRoot_of_expandRoot expands, exists_standsFor base home root, ?_, ?_⟩
  · intro plain meant stands
    obtain ⟨other, again, same⟩ := stands.exists_expandRoot known plain
    rw [expands] at again
    rw [Except.ok.inj again]
    exact same
  · intro name shape
    obtain ⟨other, again, below⟩ := exists_expandRoot_tilde known base shape
    rw [expands] at again
    rw [Except.ok.inj again]
    exact below

/-! ## A root directory whose name starts with the sign of the home directory -/

def homesAround : Surroundings where
  files := .directory [("guide", .directory [("~docs", .directory [])]),
    ("home", .directory [("docs", .directory [])])]
  workingDirectory := ⟨"/guide"⟩
  user? := some ⟨⟨"/home"⟩, ⟨"/home/.config/waymark"⟩⟩

/-- Below the home directory, further slashes before the first name do not matter. -/
theorem resolveRoot_by_form_below_home : ∃ path meant,
    resolveRoot homesAround ⟨"/guide"⟩ "~//docs" = .ok path ∧
    StandsFor ⟨"/guide"⟩ ⟨"/home"⟩ "~//docs" meant ∧ path.same meant = true := by
  have known : homesAround.home = some ⟨"/home"⟩ := rfl
  obtain ⟨path, resolves, ⟨meant, stands⟩, unique, -⟩ :=
    resolveRoot_by_form known ⟨"/guide"⟩ "~//docs"
  have found : resolveRoot homesAround ⟨"/guide"⟩ "~//docs" = .ok ⟨"/home/docs"⟩ := by rfl
  have plain : ¬StartsWithTilde "~//docs" := by
    intro ⟨c, rest, shape, other⟩
    cases shape
    exact other rfl
  refine ⟨path, meant, ?_, stands, unique plain meant stands⟩
  rw [found] at resolves
  split at resolves
  · exact found.trans resolves
  · cases resolves

/-- The relative path of a directory is not taken for this directory. -/
theorem exists_standsFor_ne_resolveRoot :
    StandsFor ⟨"/guide"⟩ ⟨"/home"⟩ "~docs" ⟨"/guide/~docs"⟩ ∧
    homesAround.isDirectory ⟨"/guide/~docs"⟩ = true ∧
    resolveRoot homesAround ⟨"/guide"⟩ "~docs" = .ok ⟨"/home/docs"⟩ ∧
    (Path.mk "/home/docs").same ⟨"/guide/~docs"⟩ = false := by
  refine ⟨?_, by decide, by rfl, by decide⟩
  exact StandsFor.relative (by decide) rfl (by decide) (by decide)

end Config
end Guidebook
