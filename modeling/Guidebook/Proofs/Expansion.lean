import Guidebook.Glob.Expansion
import Guidebook.Proofs.Lookups

/-!
# Paths of an expansion

An expansion goes from path to path, each the one before with a name after it.  The name is
that of an entry of the files or one that the glob names by itself, so what such names keep
true of a path is true of all the paths of the expansion.
-/

namespace Guidebook.Glob

variable {around : Surroundings} {directoriesOnly : Bool} {path found : Path}

/-! ## Single steps -/

theorem mem_expandFrom_nil_iff :
    found ∈ expandFrom around directoriesOnly [] path ↔
      found = path ∧ (directoriesOnly = true → around.isDirectory path = true) := by
  rw [expandFrom]
  cases directoriesOnly <;> cases around.isDirectory path <;> simp

theorem mem_expandFrom_name_iff {text : String} {steps : List Step} :
    found ∈ expandFrom around directoriesOnly (.name text :: steps) path ↔
      (if text = "." ∨ text = ".." then around.isDirectory path
        else around.isThere (path.join text)) = true ∧
      found ∈ expandFrom around directoriesOnly steps (path.join text) := by
  rw [expandFrom]
  exact List.mem_ite_nil_right

theorem mem_expandFrom_names_iff {items : List Item} {steps : List Step} :
    found ∈ expandFrom around directoriesOnly (.names items :: steps) path ↔
      ∃ entries, around.look path = .ok (.directory entries) ∧
        ∃ name, (name ∈ specialNames items ∨
          name ∈ entries.map (·.1) ∧ isMatch items name = true) ∧
          found ∈ expandFrom around directoriesOnly steps (path.join name) := by
  rw [expandFrom]
  constructor
  · intro member
    split at member
    · next entries standing =>
        obtain ⟨name, matched, member⟩ := List.mem_flatMap.mp member
        rw [List.mem_append, List.mem_filter] at matched
        exact ⟨entries, standing, name, matched, member⟩
    · cases member
  · rintro ⟨entries, standing, name, matched, member⟩
    rw [standing]
    apply List.mem_flatMap.mpr
    rw [← List.mem_filter, ← List.mem_append] at matched
    exact ⟨name, matched, member⟩

/-- What a step for any number of directories finds is found in a directory. -/
theorem exists_visitEntries_of_mem {steps : List Step}
    (member : found ∈ expandFrom around directoriesOnly (.anyDirectories :: steps) path) :
    ∃ entries visit, around.look path = .ok (.directory entries) ∧
      found ∈ visitEntries visit path entries ∧
      ∀ inner name tree, found ∈ visit inner name tree →
        found = inner ∨ ∃ step others, steps = step :: others ∧
          found ∈ expandFrom around directoriesOnly others inner := by
  cases steps with
  | nil =>
      rw [expandFrom] at member
      split at member
      · next tree standing =>
          cases tree with
          | file content modified => cases member
          | directory entries =>
              refine ⟨entries, _, standing, member, ?_⟩
              intro inner name tree visited
              split at visited
              · exact .inl (List.mem_singleton.mp visited)
              · cases visited
      · cases member
  | cons step steps =>
      rw [expandFrom] at member
      split at member
      · next tree standing =>
          cases tree with
          | file content modified => cases member
          | directory entries =>
              refine ⟨entries, _, standing, member, ?_⟩
              intro inner name tree visited
              split at visited
              · exact .inr ⟨step, steps, rfl, visited⟩
              · cases visited
      · cases member

/-! ## Names that are put after paths -/

/-- The names that a step leads to whether or not they are those of entries. -/
def Step.ownNames : Step → List String
  | .name text => [text]
  | .anyDirectories => []
  | .names items => specialNames items

section Keeps

variable {proper : String → Prop} {Keeps : Path → Prop}
  {visit : Path → (name : String) → FileTree → List Path}

mutual

/-- What is found below a tree is found at a path that names of entries lead to. -/
theorem exists_visit_of_mem_visitBelow
    (joined : ∀ path name, Keeps path → proper name → Keeps (path.join name)) {path : Path} :
    (tree : FileTree) → tree.Named proper → Keeps path → found ∈ visitBelow visit path tree →
      ∃ inner name below, Keeps inner ∧ found ∈ visit inner name below
  | .file .., _, _, member => by
      rw [visitBelow] at member
      cases member
  | .directory entries, named, kept, member => by
      rw [visitBelow] at member
      cases named with
      | directory names trees =>
          exact exists_visit_of_mem_visitEntries joined entries names trees kept member

theorem exists_visit_of_mem_visitEntries
    (joined : ∀ path name, Keeps path → proper name → Keeps (path.join name)) {path : Path} :
    (entries : List (String × FileTree)) → (∀ entry ∈ entries, proper entry.1) →
      (∀ entry ∈ entries, entry.2.Named proper) → Keeps path →
      found ∈ visitEntries visit path entries →
      ∃ inner name below, Keeps inner ∧ found ∈ visit inner name below
  | [], _, _, _, member => by
      rw [visitEntries] at member
      cases member
  | (name, tree) :: rest, names, trees, kept, member => by
      rw [visitEntries, List.append_assoc, List.mem_append, List.mem_append] at member
      rw [List.forall_mem_cons] at names trees
      have inner : Keeps (path.join name) := joined path name kept names.1
      rcases member with here | below | later
      · exact ⟨_, name, tree, inner, here⟩
      · exact exists_visit_of_mem_visitBelow joined tree trees.1 inner below
      · exact exists_visit_of_mem_visitEntries joined rest names.2 trees.2 kept later

end

/-- What proper names keep true of a path is true of all paths that an expansion leads to. -/
theorem keeps_of_mem_expandFrom (named : around.files.Named proper)
    (absolute : ∀ path, Keeps path → path.isAbsolute = true)
    (joined : ∀ path name, Keeps path → proper name → Keeps (path.join name))
    {steps : List Step} (own : ∀ step ∈ steps, ∀ name ∈ step.ownNames, proper name)
    {path : Path} (kept : Keeps path)
    (member : found ∈ expandFrom around directoriesOnly steps path) : Keeps found := by
  match steps with
  | [] =>
      obtain ⟨rfl, -⟩ := mem_expandFrom_nil_iff.mp member
      exact kept
  | .name text :: steps =>
      obtain ⟨-, member⟩ := mem_expandFrom_name_iff.mp member
      rw [List.forall_mem_cons] at own
      have inner := joined path text kept (own.1 text (List.mem_singleton_self text))
      exact keeps_of_mem_expandFrom named absolute joined own.2 inner member
  | .anyDirectories :: steps =>
      obtain ⟨entries, visit, standing, visited, leads⟩ := exists_visitEntries_of_mem member
      rw [List.forall_mem_cons] at own
      cases Surroundings.named_of_look named (absolute path kept) standing with
      | directory names trees =>
          obtain ⟨inner, name, below, kept, seen⟩ :=
            exists_visit_of_mem_visitEntries joined entries names trees kept visited
          rcases leads inner name below seen with rfl | ⟨step, others, rfl, later⟩
          · exact kept
          · rw [List.forall_mem_cons] at own
            exact keeps_of_mem_expandFrom named absolute joined own.2.2 kept later
  | .names items :: steps =>
      obtain ⟨entries, standing, name, matched, member⟩ := mem_expandFrom_names_iff.mp member
      rw [List.forall_mem_cons] at own
      cases Surroundings.named_of_look named (absolute path kept) standing with
      | directory names trees =>
          have permitted : proper name := by
            rcases matched with special | ⟨held, -⟩
            · exact own.1 name special
            · obtain ⟨entry, among, rfl⟩ := List.mem_map.mp held
              exact names entry among
          have inner := joined path name kept permitted
          exact keeps_of_mem_expandFrom named absolute joined own.2 inner member
termination_by steps.length

end Keeps

/-- All paths below an absolute path are absolute. -/
theorem isAbsolute_of_mem_expandFrom {steps : List Step} (absolute : path.isAbsolute = true)
    (member : found ∈ expandFrom around directoriesOnly steps path) : found.isAbsolute = true := by
  have named : around.files.Named fun _ => True :=
    FileTree.named_of_forall (fun _ => trivial) around.files
  refine keeps_of_mem_expandFrom named (fun _ kept => kept) ?_ (fun _ _ _ _ => trivial) absolute
    member
  intro path name kept _
  exact Path.isAbsolute_join kept name

end Guidebook.Glob
