import Guidebook.Proofs.LiteralRoots
import Guidebook.Proofs.Publication
import Mathlib.Data.Nat.Find
import Mathlib.Order.Bounds.Defs

/-!
# The order of discovery

Discovery goes through the types in their order and lists, for each of them, the files that no
type before it finds, in ascending order of the paths.  So each file that is found at all is a
candidate once, of the first type that finds it.
-/

namespace Guidebook

namespace Discovery

variable {seen paths : List Path} {path : Path}

/-! ## Paths that are left out -/

theorem distinct_cons (seen : List Path) (path : Path) (rest : List Path) :
    distinct seen (path :: rest) =
      if path.components ∈ seen.map Path.components then distinct seen rest
      else path :: distinct (path :: seen) rest := by
  rw [distinct]
  have before : seen.any path.same = true ↔ path.components ∈ seen.map Path.components := by
    simp only [List.any_eq_true, Path.same_iff, List.mem_map, @eq_comm _ path.components]
  exact if_congr before rfl rfl

theorem distinct_sublist (seen paths : List Path) : (distinct seen paths).Sublist paths := by
  induction paths generalizing seen with
  | nil => exact .slnil
  | cons first rest ih =>
      rw [distinct_cons]
      split
      · exact (ih seen).cons first
      · exact (ih (first :: seen)).cons_cons first

theorem not_mem_seen_of_mem_distinct (kept : path ∈ distinct seen paths) :
    path.components ∉ seen.map Path.components := by
  induction paths generalizing seen with
  | nil => cases kept
  | cons first rest ih =>
      rw [distinct_cons] at kept
      split at kept
      · exact ih kept
      · next fresh =>
          rcases List.mem_cons.mp kept with rfl | later
          · exact fresh
          · intro member
            exact ih later (List.mem_cons_of_mem first.components member)

theorem nodup_distinct (seen paths : List Path) :
    ((distinct seen paths).map Path.components).Nodup := by
  induction paths generalizing seen with
  | nil => exact .nil
  | cons first rest ih =>
      rw [distinct_cons]
      split
      · exact ih seen
      · rw [List.map_cons, List.nodup_cons]
        refine ⟨?_, ih (first :: seen)⟩
        intro member
        obtain ⟨other, kept, same⟩ := List.mem_map.mp member
        apply not_mem_seen_of_mem_distinct kept
        rw [same]
        exact List.mem_cons_self

/-- A path is left out only if there is one before with the same components. -/
theorem mem_components_distinct (member : path ∈ paths) :
    path.components ∈ seen.map Path.components ∨
      path.components ∈ (distinct seen paths).map Path.components := by
  induction paths generalizing seen with
  | nil => cases member
  | cons first rest ih =>
      rw [distinct_cons]
      split
      · next left =>
          rcases List.mem_cons.mp member with rfl | later
          · exact .inl left
          · exact ih later
      · rcases List.mem_cons.mp member with rfl | later
        · exact .inr List.mem_cons_self
        · rcases @ih (first :: seen) later with before | kept
          · rcases List.mem_cons.mp before with same | before
            · rw [same]
              exact .inr List.mem_cons_self
            · exact .inl before
          · exact .inr (List.mem_cons_of_mem first.components kept)

/-- What is seen after some paths are listed is what was seen before and these paths. -/
theorem mem_components_distinct_append_iff {components : List Path.Component} :
    components ∈ (distinct seen paths ++ seen).map Path.components ↔
      components ∈ paths.map Path.components ∨ components ∈ seen.map Path.components := by
  rw [List.map_append, List.mem_append]
  constructor
  · rintro (listed | before)
    · exact .inl (((distinct_sublist seen paths).map Path.components).subset listed)
    · exact .inr before
  · rintro (listed | before)
    · obtain ⟨path, member, rfl⟩ := List.mem_map.mp listed
      exact (mem_components_distinct member).symm
    · exact .inr before

/-! ## The files of each type -/

/-- Some paths list what is wanted, all of it but for paths with the same components. -/
structure Lists (Wanted : Path → Prop) (paths : List Path) : Prop where
  ascending : paths.Pairwise fun left right => left.components < right.components
  wanted : ∀ path ∈ paths, Wanted path
  complete : ∀ path, Wanted path → ∃ listed ∈ paths, listed.components = path.components

theorem Lists.congr {Wanted Needed : Path → Prop} (lists : Lists Wanted paths)
    (alike : ∀ path, Wanted path ↔ Needed path) : Lists Needed paths where
  ascending := lists.ascending
  wanted := fun path member => (alike path).mp (lists.wanted path member)
  complete := fun path needed => lists.complete path ((alike path).mpr needed)

variable {around : Surroundings} {root : Path}

/-- The type at a place finds the path. -/
def FoundAt (around : Surroundings) (root : Path) (types : List DocumentType) (index : ℕ)
    (path : Path) : Prop :=
  ∃ type, types[index]? = some type ∧ Matches around root type path

theorem foundAt_zero_iff {type : DocumentType} {rest : List DocumentType} :
    FoundAt around root (type :: rest) 0 path ↔ Matches around root type path := by
  simp [FoundAt]

theorem foundAt_succ_iff {type : DocumentType} {rest : List DocumentType} {index : ℕ} :
    FoundAt around root (type :: rest) (index + 1) path ↔ FoundAt around root rest index path :=
  .rfl

/-- The type at a place finds the path, and no type before it does. -/
def NewAt (around : Surroundings) (root : Path) (types : List DocumentType) (index : ℕ)
    (path : Path) : Prop :=
  FoundAt around root types index path ∧
    ∀ earlier < index, ∀ other, FoundAt around root types earlier other →
      other.components ≠ path.components

/-- What is new at a later place is what is new among the later types and not found by the
first. -/
theorem newAt_succ_iff {type : DocumentType} {rest : List DocumentType} {index : ℕ} :
    NewAt around root (type :: rest) (index + 1) path ↔
      NewAt around root rest index path ∧
        ∀ other, Matches around root type other → other.components ≠ path.components := by
  simp only [NewAt, Nat.forall_lt_succ_left, foundAt_zero_iff, foundAt_succ_iff]
  exact ⟨fun ⟨found, first, later⟩ => ⟨⟨found, later⟩, first⟩,
    fun ⟨⟨found, later⟩, first⟩ => ⟨found, first, later⟩⟩

theorem lists_distinct {Wanted : Path → Prop}
    (sorted : paths.Pairwise fun left right => left.components ≤ right.components)
    (wanted : ∀ path, path ∈ paths ↔ Wanted path) :
    Lists (fun path => Wanted path ∧ path.components ∉ seen.map Path.components)
      (distinct seen paths) where
  ascending := by
    have apart := List.pairwise_map.mp (nodup_distinct seen paths)
    exact (sorted.sublist (distinct_sublist seen paths)).imp₂ (fun _ _ => lt_of_le_of_ne) apart
  wanted := by
    intro path kept
    exact ⟨(wanted path).mp ((distinct_sublist seen paths).subset kept),
      not_mem_seen_of_mem_distinct kept⟩
  complete := by
    rintro path ⟨needed, unseen⟩
    rcases mem_components_distinct ((wanted path).mpr needed) with before | kept
    · exact absurd before unseen
    · exact List.mem_map.mp kept

/-- The candidates of some types are, type after type, the files that are neither seen before
nor found by a type before. -/
theorem exists_lists_of_candidatesFrom (absolute : root.isAbsolute = true) {index : ℕ}
    {seen : List Path} {types : List DocumentType} {candidates : List Candidate}
    (found : candidatesFrom around root index seen types = .ok candidates) :
    ∃ paths : ℕ → List Path,
      candidates = (List.range types.length).flatMap
        (fun place => (paths place).map (⟨·, index + place⟩)) ∧
      ∀ place < types.length, Lists (fun path => NewAt around root types place path ∧
        path.components ∉ seen.map Path.components) (paths place) := by
  induction types generalizing index seen candidates with
  | nil =>
      cases found
      exact ⟨fun _ => [], rfl, nofun⟩
  | cons type rest ih =>
      obtain ⟨files, later, listed, laterFound, rfl⟩ := Index.candidatesFrom_cons found
      obtain ⟨others, rfl, lists⟩ := ih laterFound
      have files_iff (path : Path) : path ∈ files ↔ Matches around root type path :=
        mem_filesOf_iff absolute listed
      refine ⟨fun place => place.casesOn (distinct seen files) others, ?_, ?_⟩
      · rw [List.length_cons, List.range_succ_eq_map, List.flatMap_cons, List.flatMap_map]
        simp only [Nat.add_assoc, Nat.add_comm 1]
        rfl
      · intro place bound
        cases place with
        | zero =>
            refine (lists_distinct (pairwise_filesOf listed) files_iff).congr fun path => ?_
            simp [NewAt, foundAt_zero_iff]
        | succ place =>
            refine (lists place (Nat.lt_of_succ_lt_succ bound)).congr fun path => ?_
            have unfound : path.components ∉ files.map Path.components ↔
                ∀ other, Matches around root type other → other.components ≠ path.components := by
              simp only [List.mem_map, files_iff, not_exists, not_and, ne_eq]
            rw [mem_components_distinct_append_iff, not_or, unfound, newAt_succ_iff, and_assoc]

/-- No two candidates have the same path, and none has one that is seen before. -/
theorem nodup_of_candidatesFrom {index : ℕ} {seen : List Path} {types : List DocumentType}
    {candidates : List Candidate}
    (found : candidatesFrom around root index seen types = .ok candidates) :
    (candidates.map fun candidate => candidate.path.components).Nodup ∧
      ∀ candidate ∈ candidates, candidate.path.components ∉ seen.map Path.components := by
  induction types generalizing index seen candidates with
  | nil =>
      cases found
      exact ⟨.nil, nofun⟩
  | cons type rest ih =>
      obtain ⟨files, later, -, laterFound, rfl⟩ := Index.candidatesFrom_cons found
      obtain ⟨apart, unseen⟩ := ih laterFound
      simp only [List.map_append, List.mem_append, not_or] at unseen
      have own : ((distinct seen files).map (Candidate.mk · index)).map
          (fun candidate => candidate.path.components) =
            (distinct seen files).map Path.components := by
        rw [List.map_map]
        rfl
      constructor
      · rw [List.map_append, own, List.nodup_append]
        refine ⟨nodup_distinct seen files, apart, ?_⟩
        intro components listed other found same
        subst same
        obtain ⟨candidate, member, rfl⟩ := List.mem_map.mp found
        exact (unseen candidate member).1 listed
      · intro candidate member
        rcases List.mem_append.mp member with listed | after
        · obtain ⟨path, kept, rfl⟩ := List.mem_map.mp listed
          exact not_mem_seen_of_mem_distinct kept
        · exact (unseen candidate after).2

/-- Some candidates are the files of some types, each of the first type that finds it. -/
structure Assigns (around : Surroundings) (root : Path) (types : List DocumentType)
    (candidates : List Candidate) : Prop where
  /-- Type after type, the candidates are the files that are new. -/
  listed : ∃ paths : ℕ → List Path,
    candidates = (List.range types.length).flatMap
      (fun index => (paths index).map (⟨·, index⟩)) ∧
    ∀ index < types.length, Lists (NewAt around root types index) (paths index)
  distinct : (candidates.map fun candidate => candidate.path.components).Nodup
  /-- What some type finds is a candidate, of the first type that finds it. -/
  assigned : ∀ index path, FoundAt around root types index path →
    ∃ candidate ∈ candidates, candidate.path.components = path.components ∧
      IsLeast {earlier | ∃ other, FoundAt around root types earlier other ∧
        other.components = path.components} candidate.typeIndex
  new : ∀ candidate ∈ candidates, NewAt around root types candidate.typeIndex candidate.path
  absolute : ∀ candidate ∈ candidates, candidate.path.isAbsolute = true
  typed : ∀ candidate ∈ candidates, candidate.typeIndex < types.length

theorem FoundAt.lt_length {types : List DocumentType} {index : ℕ}
    (found : FoundAt around root types index path) : index < types.length := by
  obtain ⟨type, held, -⟩ := found
  exact (List.getElem?_eq_some_iff.mp held).1

/-- The first type that finds a path finds it as a new one. -/
theorem FoundAt.exists_newAt {types : List DocumentType} {index : ℕ}
    (found : FoundAt around root types index path) :
    ∃ first other, NewAt around root types first other ∧ other.components = path.components ∧
      IsLeast {earlier | ∃ other, FoundAt around root types earlier other ∧
        other.components = path.components} first := by
  classical
  have somewhere : ∃ earlier, ∃ other, FoundAt around root types earlier other ∧
    other.components = path.components := ⟨index, path, found, rfl⟩
  obtain ⟨other, first, same⟩ := Nat.find_spec somewhere
  refine ⟨Nat.find somewhere, other, ⟨first, ?_⟩, same, Nat.find_spec somewhere, ?_⟩
  · intro earlier before second foundBefore alike
    exact Nat.find_min somewhere before ⟨second, foundBefore, alike.trans same⟩
  · intro earlier foundBefore
    exact Nat.find_min' somewhere foundBefore

/-- Each file that some types find is assigned to the first of them that does. -/
theorem assigns_of_candidatesFrom (absolute : root.isAbsolute = true) {types : List DocumentType}
    {candidates : List Candidate}
    (found : candidatesFrom around root 0 [] types = .ok candidates) :
    Assigns around root types candidates := by
  have apart := (nodup_of_candidatesFrom found).1
  obtain ⟨paths, shape, lists⟩ := exists_lists_of_candidatesFrom absolute found
  simp only [Nat.zero_add, List.map_nil, List.not_mem_nil, not_false_eq_true, and_true]
    at shape lists
  have mem_iff (candidate : Candidate) : candidate ∈ candidates ↔
      candidate.typeIndex < types.length ∧ candidate.path ∈ paths candidate.typeIndex := by
    simp only [shape, List.mem_flatMap, List.mem_range, List.mem_map]
    constructor
    · rintro ⟨index, bound, path, listed, rfl⟩
      exact ⟨bound, listed⟩
    · rintro ⟨bound, listed⟩
      exact ⟨candidate.typeIndex, bound, candidate.path, listed, rfl⟩
  have new (candidate : Candidate) (member : candidate ∈ candidates) :
      NewAt around root types candidate.typeIndex candidate.path := by
    obtain ⟨bound, listed⟩ := (mem_iff candidate).mp member
    exact (lists candidate.typeIndex bound).wanted candidate.path listed
  refine ⟨⟨paths, shape, lists⟩, apart, ?assigned, new, ?absolute, fun candidate member =>
    (new candidate member).1.lt_length⟩
  case assigned =>
    intro index path found
    obtain ⟨first, other, unfound, same, least⟩ := found.exists_newAt
    have bound := unfound.1.lt_length
    obtain ⟨kept, listed, alike⟩ := (lists first bound).complete other unfound
    exact ⟨⟨kept, first⟩, (mem_iff ⟨kept, first⟩).mpr ⟨bound, listed⟩, alike.trans same, least⟩
  case absolute =>
    intro candidate member
    obtain ⟨⟨type, -, matched⟩, -⟩ := new candidate member
    exact isAbsolute_of_matches matched

theorem isAbsolute_absoluteRoot (rooted : around.workingDirectory.isAbsolute = true)
    (root : Path) : (absoluteRoot around root).isAbsolute = true := by
  rw [absoluteRoot]
  split
  · assumption
  · exact Path.isAbsolute_join rooted root.text

end Discovery

/-- Settings whose globs can be expanded have candidates: type after type the files that the
glob yields from the root on and that no type before finds, in ascending order and each once. -/
theorem discover_assigns {around : Surroundings} {settings : IndexSettings}
    (rooted : around.workingDirectory.isAbsolute = true)
    (expandable : ∀ type ∈ settings.types, ∃ glob, Glob.parse type.glob = .ok glob) :
    let root := Discovery.absoluteRoot around settings.root
    (Discovery.startOf root).same root = true ∧
      ∃ candidates, discover around settings = .ok candidates ∧
        Discovery.Assigns around root settings.types candidates := by
  intro root
  have absolute : root.isAbsolute = true := Discovery.isAbsolute_absoluteRoot rooted settings.root
  have found : ∃ candidates, discover around settings = .ok candidates := by
    apply Discovery.exists_candidatesFrom_eq_ok_iff.mpr
    intro type member
    rw [Discovery.exists_filesOf_eq_ok_iff, ← Glob.exists_parse_eq_ok_iff]
    exact expandable type member
  obtain ⟨candidates, found⟩ := found
  exact ⟨Discovery.same_startOf absolute, candidates, found,
    Discovery.assigns_of_candidatesFrom absolute found⟩

/-! ## A root with brackets in its name -/

def bracketAround : Surroundings where
  files := .directory [("guide[1]", .directory [
    ("must", .directory [("tests.bhv", .file (.text "---\nid: tests\n---\n") Moment.epoch)])])]
  workingDirectory := ⟨"/"⟩
  user? := none

def bracketSettings : IndexSettings where
  root := ⟨"guide[1]//"⟩
  types := [{ name := "recipe", glob := "**/*", extension := some "rcp" },
    { name := "behavior", glob := "/must/*.bhv" },
    { name := "checklist", glob := "**/t*s.*", extension := some "bhv" }]

/-- The file is found by the last two types, and only the recipes come before these. -/
theorem discover_assigns_brackets : ∃ candidates,
    discover bracketAround bracketSettings = .ok candidates ∧
      ∃ candidate ∈ candidates, candidate.typeIndex = 1 ∧
        candidate.path.same ⟨"/guide[1]/must/tests.bhv"⟩ = true := by
  obtain ⟨-, candidates, found, assigns⟩ := @discover_assigns bracketAround bracketSettings rfl (by
    intro type member
    simp only [bracketSettings, List.mem_cons, List.not_mem_nil, or_false] at member
    rcases member with rfl | rfl | rfl <;> exact ⟨_, rfl⟩)
  have tests : Discovery.FoundAt bracketAround
      (Discovery.absoluteRoot bracketAround bracketSettings.root) bracketSettings.types 1
      ⟨"/guide[1]/must/tests.bhv"⟩ :=
    ⟨_, rfl, ⟨_, rfl, by decide +kernel⟩, by decide +kernel, by decide +kernel, nofun⟩
  obtain ⟨candidate, member, same, ⟨other, first, alike⟩, least⟩ := assigns.assigned 1 _ tests
  refine ⟨candidates, found, candidate, member, ?_, Path.same_iff.mpr same⟩
  apply Nat.le_antisymm (least ⟨_, tests, rfl⟩)
  rw [Nat.one_le_iff_ne_zero]
  intro zero
  rw [zero] at first
  obtain ⟨recipe, held, recipes⟩ := first
  cases held
  have extension := recipes.extension "rcp" rfl
  rw [Path.extension?, Path.fileName?, alike] at extension
  exact absurd extension (by decide +kernel)

end Guidebook
