import Guidebook.Files.Tree
import Guidebook.Proofs.PathOrder

/-!
# What stands at a path

Looking at a path is a walk from directory to directory, one name after the other.  What
stands at a path with a name after it is reached from the directory that stands at the
path; nothing is reached from a file.
-/

namespace Guidebook

namespace FileTree

theorem follow_directory_cons (above : List FileTree) (entries : List (String × FileTree))
    (name : String) (names : List String) :
    follow above (.directory entries) (name :: names) =
      if name = "" ∨ name = "." then follow above (.directory entries) names
      else if name = ".." then
        match above with
        | [] => follow [] (.directory entries) names
        | parent :: above => follow above parent names
      else if longestName < name.utf8ByteSize then .error .nameTooLong
      else
        match entries.lookup name with
        | none => .error .notFound
        | some next => follow (.directory entries :: above) next names := by
  cases above <;> rfl

/-- A tree and the directories above it, the nearest first. -/
structure Spot where
  above : List FileTree
  here : FileTree

namespace Spot

/-- A name leads from one spot to another. -/
inductive Step : Spot → (name : String) → Spot → Prop where
  | stay {above : List FileTree} {entries : List (String × FileTree)} {name : String}
      (silent : name = "" ∨ name = ".") :
      Step ⟨above, .directory entries⟩ name ⟨above, .directory entries⟩
  /-- Above the uppermost directory there is only itself. -/
  | top {entries : List (String × FileTree)} :
      Step ⟨[], .directory entries⟩ ".." ⟨[], .directory entries⟩
  | up {above : List FileTree} {parent : FileTree} {entries : List (String × FileTree)} :
      Step ⟨parent :: above, .directory entries⟩ ".." ⟨above, parent⟩
  | down {above : List FileTree} {entries : List (String × FileTree)} {name : String}
      {next : FileTree} (loud : ¬(name = "" ∨ name = ".")) (downward : name ≠ "..")
      (short : name.utf8ByteSize ≤ longestName) (held : entries.lookup name = some next) :
      Step ⟨above, .directory entries⟩ name ⟨.directory entries :: above, next⟩

/-- Names lead from one spot to another, one after the other. -/
inductive Walk : Spot → (names : List String) → Spot → Prop where
  | nil {spot : Spot} : Walk spot [] spot
  | cons {start next final : Spot} {name : String} {names : List String}
      (step : Step start name next) (later : Walk next names final) :
      Walk start (name :: names) final

variable {start final spot : Spot} {found : FileTree} {name : String} {names rest : List String}

theorem follow_cons_eq_ok_iff :
    follow start.above start.here (name :: names) = .ok found ↔
      ∃ next, Step start name next ∧ follow next.above next.here names = .ok found := by
  obtain ⟨above, here⟩ := start
  constructor
  · intro leads
    cases here with
    | file content modified => cases leads
    | directory entries =>
        rw [follow_directory_cons] at leads
        split at leads
        · next silent => exact ⟨_, .stay silent, leads⟩
        · next loud =>
            split at leads
            · next upward =>
                subst upward
                cases above with
                | nil => exact ⟨_, .top, leads⟩
                | cons parent above => exact ⟨_, .up, leads⟩
            · next downward =>
                split at leads
                · cases leads
                · next short =>
                    split at leads
                    · cases leads
                    · next held =>
                        exact ⟨_, .down loud downward (Nat.le_of_not_lt short) held, leads⟩
  · rintro ⟨next, step, leads⟩
    cases step with
    | stay silent => rwa [follow_directory_cons, if_pos silent]
    | top => exact leads
    | up => exact leads
    | down loud downward short held =>
        rw [follow_directory_cons, if_neg loud, if_neg downward, if_neg (Nat.not_lt.mpr short),
          held]
        exact leads

theorem follow_eq_ok_iff :
    follow start.above start.here names = .ok found ↔
      ∃ above, Walk start names ⟨above, found⟩ := by
  induction names generalizing start with
  | nil =>
      obtain ⟨above, here⟩ := start
      have stays : follow above here [] = .ok here := by cases here <;> rfl
      rw [stays, Except.ok.injEq]
      constructor
      · rintro rfl
        exact ⟨above, .nil⟩
      · rintro ⟨_, walk⟩
        cases walk
        rfl
  | cons name names ih =>
      rw [follow_cons_eq_ok_iff]
      constructor
      · rintro ⟨next, step, leads⟩
        obtain ⟨above, walk⟩ := ih.mp leads
        exact ⟨above, .cons step walk⟩
      · rintro ⟨above, walk⟩
        cases walk with
        | cons step later => exact ⟨_, step, ih.mpr ⟨above, later⟩⟩

theorem walk_append_iff :
    Walk start (names ++ rest) final ↔ ∃ spot, Walk start names spot ∧ Walk spot rest final := by
  induction names generalizing start with
  | nil =>
      constructor
      · intro walk
        exact ⟨start, .nil, walk⟩
      · rintro ⟨spot, walk, later⟩
        cases walk
        exact later
  | cons name names ih =>
      constructor
      · intro walk
        cases walk with
        | cons step later =>
            obtain ⟨spot, first, second⟩ := ih.mp later
            exact ⟨spot, .cons step first, second⟩
      · rintro ⟨spot, walk, later⟩
        cases walk with
        | cons step first => exact .cons step (ih.mpr ⟨spot, first, later⟩)

theorem walk_singleton_iff : Walk start [name] final ↔ Step start name final := by
  constructor
  · intro walk
    cases walk with
    | cons step later =>
        cases later
        exact step
  · intro step
    exact .cons step .nil

/-- Names lead on from a directory only. -/
theorem Step.exists_directory (step : Step start name final) :
    ∃ entries, start.here = .directory entries := by
  cases step <;> exact ⟨_, rfl⟩

/-- A name that leads somewhere else than a special one is in the directory. -/
theorem Step.mem_names {above : List FileTree} {entries : List (String × FileTree)}
    (step : Step ⟨above, .directory entries⟩ name final)
    (proper : ¬(name = "" ∨ name = "." ∨ name = "..")) : name ∈ entries.map (·.1) := by
  simp only [not_or] at proper
  cases step with
  | stay silent => exact absurd silent (by simp [proper])
  | top | up => exact absurd rfl proper.2.2
  | down _ _ _ held =>
      rw [← Keyed.lookup_isSome_iff_mem, held]
      rfl

end Spot

/-- All entries in the tree have names of some kind. -/
inductive Named (proper : String → Prop) : FileTree → Prop where
  | file {content : Content} {modified : Moment} : Named proper (.file content modified)
  | directory {entries : List (String × FileTree)} (names : ∀ entry ∈ entries, proper entry.1)
      (trees : ∀ entry ∈ entries, Named proper entry.2) : Named proper (.directory entries)

variable {proper : String → Prop}

theorem named_directory_iff {entries : List (String × FileTree)} :
    (directory entries).Named proper ↔
      (∀ entry ∈ entries, proper entry.1) ∧ ∀ entry ∈ entries, entry.2.Named proper := by
  constructor
  · intro named
    cases named with
    | directory names trees => exact ⟨names, trees⟩
  · rintro ⟨names, trees⟩
    exact .directory names trees

theorem named_of_forall (every : ∀ name, proper name) : ∀ tree : FileTree, tree.Named proper
  | .file .. => .file
  | .directory entries =>
      .directory (fun entry _ => every entry.1) fun entry _ => named_of_forall every entry.2
termination_by tree => sizeOf tree
decreasing_by
  have within := List.sizeOf_lt_of_mem ‹entry ∈ entries›
  obtain ⟨name, tree⟩ := entry
  simp only [Prod.mk.sizeOf_spec, directory.sizeOf_spec] at within ⊢
  omega

/-- The tree of a spot and the directories above it have names of some kind only. -/
structure Spot.Named (proper : String → Prop) (spot : Spot) : Prop where
  above : ∀ tree ∈ spot.above, tree.Named proper
  here : spot.here.Named proper

theorem Spot.Step.named {start next : Spot} {name : String} (step : Step start name next)
    (named : start.Named proper) : next.Named proper := by
  cases step with
  | stay | top => exact named
  | up =>
      have above := List.forall_mem_cons.mp named.above
      exact ⟨above.2, above.1⟩
  | down _ _ _ held =>
      cases named.here with
      | directory names trees =>
          obtain ⟨before, after, rfl, -⟩ := List.lookup_eq_some_iff.mp held
          refine ⟨List.forall_mem_cons.mpr ⟨.directory names trees, named.above⟩, ?_⟩
          exact trees _ (List.mem_append_right before List.mem_cons_self)

theorem Spot.Walk.named {start final : Spot} {names : List String} (walk : Walk start names final)
    (named : start.Named proper) : final.Named proper := by
  induction walk with
  | nil => exact named
  | cons step _ ih => exact ih (step.named named)

end FileTree

namespace Surroundings

variable {around : Surroundings} {path : Path} {tree : FileTree}

theorem isThere_iff : around.isThere path = true ↔ ∃ tree, around.look path = .ok tree := by
  rw [isThere]
  cases around.look path <;> simp [Except.toOption]

theorem isDirectory_iff :
    around.isDirectory path = true ↔ ∃ entries, around.look path = .ok (.directory entries) := by
  rw [isDirectory]
  cases around.look path with
  | error fault => simp [Except.toOption]
  | ok tree => cases tree <;> simp [Except.toOption, FileTree.isDirectory]

theorem isThere_of_isDirectory (directory : around.isDirectory path = true) :
    around.isThere path = true := by
  obtain ⟨entries, found⟩ := isDirectory_iff.mp directory
  exact isThere_iff.mpr ⟨_, found⟩

theorem isThere_of_isFile (file : around.isFile path = true) : around.isThere path = true := by
  rw [isFile] at file
  rw [isThere]
  cases found : (around.look path).toOption with
  | none => simp [found] at file
  | some tree => rfl

theorem not_isDirectory_of_isFile (file : around.isFile path = true) :
    around.isDirectory path = false := by
  rw [isFile] at file
  rw [isDirectory]
  cases found : (around.look path).toOption with
  | none => rfl
  | some tree => simpa [found] using file

/-- The spot where a walk from the root of the files starts. -/
def root (around : Surroundings) : FileTree.Spot := ⟨[], around.files⟩

theorem look_eq_ok_iff (absolute : path.isAbsolute = true) :
    around.look path = .ok tree ↔
      '\x00' ∉ path.text.toList ∧ path.text.utf8ByteSize ≤ FileTree.longestPath ∧
        ∃ above, around.root.Walk (FileTree.namesOf path.text) ⟨above, tree⟩ := by
  have nonempty : path.text.isEmpty = false := by
    obtain ⟨rest, starts⟩ := Path.isAbsolute_iff.mp absolute
    rw [← Bool.not_eq_true, String.isEmpty_iff]
    intro empty
    rw [empty] at starts
    cases starts
  rw [look, FileTree.look, nonempty, absolute, if_pos rfl, if_neg Bool.false_ne_true]
  split
  · next nul =>
      simp only [List.contains_iff_mem] at nul
      simp [nul]
  · next proper =>
      simp only [List.contains_iff_mem] at proper
      split
      · next long => simp [Nat.not_le.mpr long]
      · next short =>
          simp only [proper, not_false_eq_true, Nat.le_of_not_lt short, true_and]
          exact @FileTree.Spot.follow_eq_ok_iff around.root tree _

theorem named_of_look {proper : String → Prop} (named : around.files.Named proper)
    (absolute : path.isAbsolute = true) (found : around.look path = .ok tree) :
    tree.Named proper := by
  obtain ⟨-, -, above, walk⟩ := (look_eq_ok_iff absolute).mp found
  have started : around.root.Named proper := ⟨nofun, named⟩
  exact (walk.named started).here

/-- What stands at a path with a name after it is reached by the name from the directory
that stands at the path. -/
theorem exists_step_of_look_join (absolute : path.isAbsolute = true) {name : String}
    (relative : '/' ∉ name.toList) (found : around.look (path.join name) = .ok tree) :
    ∃ above entries below, around.look path = .ok (.directory entries) ∧
      FileTree.Spot.Step ⟨above, .directory entries⟩ name ⟨below, tree⟩ := by
  obtain ⟨⟨more, longer⟩, directory, shape, joined⟩ := Path.exists_join_eq absolute relative
  rw [look_eq_ok_iff (Path.isAbsolute_join absolute name)] at found
  obtain ⟨proper, short, below, walk⟩ := found
  rw [FileTree.namesOf, joined, Text.pieces_append_separator, Text.pieces_of_not_mem relative,
    List.map_append, List.map_singleton, String.ofList_toList,
    FileTree.Spot.walk_append_iff] at walk
  obtain ⟨⟨above, here⟩, walk, step⟩ := walk
  rw [FileTree.Spot.walk_singleton_iff] at step
  obtain ⟨entries, same⟩ := step.exists_directory
  dsimp only at same
  subst same
  refine ⟨above, entries, below, (look_eq_ok_iff absolute).mpr ⟨?_, ?_, above, ?_⟩, step⟩
  · intro nul
    apply proper
    simp [longer, nul]
  · rw [longer, String.utf8ByteSize_append] at short
    omega
  · rcases shape with shape | shape
    · rwa [FileTree.namesOf, shape]
    · rw [FileTree.namesOf, shape, Path.pieces_concat_separator, List.map_append,
        FileTree.Spot.walk_append_iff]
      exact ⟨_, walk, FileTree.Spot.walk_singleton_iff.mpr (.stay (.inl rfl))⟩

theorem isDirectory_of_isThere_join (absolute : path.isAbsolute = true) {name : String}
    (relative : '/' ∉ name.toList) (there : around.isThere (path.join name) = true) :
    around.isDirectory path = true := by
  obtain ⟨tree, found⟩ := isThere_iff.mp there
  obtain ⟨above, entries, below, standing, -⟩ := exists_step_of_look_join absolute relative found
  exact isDirectory_iff.mpr ⟨entries, standing⟩

end Surroundings

end Guidebook
