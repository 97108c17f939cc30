import Guidebook.Proofs.Clashes
import Guidebook.Proofs.Places

/-!
# Files that are found twice

Discovery tells files apart by the components of their paths.  As long as no glob leads to a
directory above, paths with different components are those of different files, and a file is a
candidate once.  A glob that climbs reaches a file along a path of its own, so that the file is
loaded a second time, and then clashes with itself.
-/

namespace Guidebook

/-- A name that an entry of a directory can have. -/
def FileTree.IsFileName (name : String) : Prop := '/' ∉ name.toList ∧ name ≠ ".."

instance (name : String) : Decidable (FileTree.IsFileName name) :=
  inferInstanceAs (Decidable (_ ∧ _))

/-- A component of the glob of the type leads, or may lead, to the directory above. -/
def DocumentType.climbs (type : DocumentType) : Bool :=
  match Glob.parse (Discovery.trimSeparatorsStart type.glob) with
  | .ok glob => glob.steps.any fun step => step.ownNames.contains ".."
  | .error _ => false

/-- The candidate was found by a type whose glob climbs. -/
def Candidate.climbs (settings : IndexSettings) (candidate : Candidate) : Bool :=
  (settings.types.getD candidate.typeIndex default).climbs

/-! ## Globs that do not climb -/

theorem Glob.isFileName_of_mem_ownNames {step : Step} (plain : step.IsPlain)
    (level : ".." ∉ step.ownNames) {name : String} (member : name ∈ step.ownNames) :
    FileTree.IsFileName name := by
  refine ⟨?_, fun same => level (same ▸ member)⟩
  cases step with
  | name text =>
      rw [List.mem_singleton.mp member]
      exact plain
  | anyDirectories => cases member
  | names items =>
      rw [Step.ownNames, specialNames] at member
      split at member
      · have dotted := (List.mem_filter.mp member).1
        rcases List.mem_pair.mp dotted with rfl | rfl <;> decide
      · cases member

namespace Path

/-- Nothing but names leads on from one absolute path to another. -/
structure LeadsDown (root path : Path) : Prop where
  absolute : path.isAbsolute = true
  components : ∃ names : List String, path.components = root.components ++ names.map .name

variable {root path left right : Path}

theorem LeadsDown.join (down : LeadsDown root path) {name : String}
    (proper : FileTree.IsFileName name) : LeadsDown root (path.join name) := by
  obtain ⟨absolute, names, components⟩ := down
  refine ⟨isAbsolute_join absolute name, ?_⟩
  rw [components_join absolute proper.1, componentOf?_toList, if_neg proper.2, components]
  split
  · exact ⟨names, by simp⟩
  · exact ⟨names ++ [name], by simp⟩

/-- Names that are put after a path are the last on the way to its place. -/
theorem LeadsDown.exists_resolved_eq (down : LeadsDown root path) :
    ∃ names : List String, path.components = root.components ++ names.map .name ∧
      path.resolved = root.resolved ++ names := by
  obtain ⟨names, components⟩ := down.components
  have way (before : List String) :
      (names.map Component.name).foldl Component.lead before = before ++ names := by
    clear components
    induction names generalizing before with
    | nil => simp
    | cons name names ih =>
        rw [List.map_cons, List.foldl_cons, ih, Component.lead, List.append_assoc]
        rfl
  exact ⟨names, components, by rw [resolved, components, List.foldl_append, way, resolved]⟩

/-- Below a root, one place has one path. -/
theorem LeadsDown.components_eq (down : LeadsDown root left) (other : LeadsDown root right)
    (same : left.resolved = right.resolved) : left.components = right.components := by
  obtain ⟨names, components, way⟩ := down.exists_resolved_eq
  obtain ⟨others, otherComponents, otherWay⟩ := other.exists_resolved_eq
  rw [way, otherWay, List.append_cancel_left_eq] at same
  rw [components, otherComponents, same]

end Path

namespace Discovery

variable {around : Surroundings} {root path : Path} {type : DocumentType}

/-- What a glob that does not climb finds lies below the root. -/
theorem leadsDown_of_matches (named : around.files.Named FileTree.IsFileName)
    (level : type.climbs = false) (found : Matches around root type path) :
    Path.LeadsDown (startOf root) path := by
  obtain ⟨glob, parsed, member⟩ := found.yielded
  rw [DocumentType.climbs, parsed, List.any_eq_false] at level
  refine Glob.keeps_of_mem_expandFrom named (fun _ down => down.absolute)
    (fun _ _ down proper => down.join proper) ?_ ⟨isAbsolute_startOf root, [], by simp⟩ member
  intro step among name own
  refine Glob.isFileName_of_mem_ownNames (isPlain_of_parse parsed step among) ?_ own
  simpa using level step among

end Discovery

/-! ## Candidates for one place -/

/-- A load reports a clash only if it has come to its candidates. -/
theorem Index.clashesWith_of_load_duplicateId {around : Surroundings} {index : Index}
    {candidates : List Candidate} (valid : index.settings.validate around = .ok ())
    (found : discover around index.settings = .ok candidates) {id first second : String}
    (fails : (index.load around).1 = .error (.duplicateId id first second)) :
    ClashesWith around index.settings candidates (.duplicateId id first second) := by
  cases claimed : index.claimed with
  | true =>
      rw [load_of_claimed around claimed] at fails
      cases fails
  | false =>
      cases workers : startWorkers around index.settings with
      | error error =>
          have stopped : contentsOf around index.settings = .error error := by
            rw [contentsOf, valid, found, workers]
            rfl
          rw [load_of_error claimed stopped] at fails
          cases fails
          rw [startWorkers] at workers
          split at workers <;> cases workers
      | ok =>
          have load : index.load around =
              (.error (.duplicateId id first second), (index.load around).2) := Prod.ext fails rfl
          exact ((load_eq_error_iff claimed valid found workers).mp load).2

/-- No two candidates are one file unless one of them is found by a glob that climbs, and
nothing else makes a load report a file as a duplicate of itself. -/
theorem one_file_twice_only_if_climbing {around : Surroundings} {index : Index}
    {candidates : List Candidate} (rooted : around.workingDirectory.isAbsolute = true)
    (named : around.files.Named FileTree.IsFileName)
    (valid : index.settings.validate around = .ok ())
    (found : discover around index.settings = .ok candidates) :
    (candidates.Pairwise fun left right => left.path.resolved = right.path.resolved →
      left.climbs index.settings = true ∨ right.climbs index.settings = true) ∧
    (∀ left ∈ candidates, ∀ right ∈ candidates, left.path.resolved = right.path.resolved →
      around.look left.path = around.look right.path) ∧
    ∀ id first second, (index.load around).1 = .error (.duplicateId id first second) →
      ∃ left right, [left, right].Sublist candidates ∧ left.path.text = first ∧
        right.path.text = second ∧ (left.path.resolved = right.path.resolved →
          left.climbs index.settings = true ∨ right.climbs index.settings = true) := by
  have absolute := Discovery.isAbsolute_absoluteRoot rooted index.settings.root
  have assigns := Discovery.assigns_of_candidatesFrom absolute found
  have matched (candidate : Candidate) (member : candidate ∈ candidates) :
      Discovery.Matches around (Discovery.absoluteRoot around index.settings.root)
        (index.settings.types.getD candidate.typeIndex default) candidate.path := by
    obtain ⟨⟨type, held, found⟩, -⟩ := assigns.new candidate member
    rwa [List.getD_eq_getElem?_getD, held, Option.getD_some]
  have places : candidates.Pairwise fun left right => left.path.resolved = right.path.resolved →
      left.climbs index.settings = true ∨ right.climbs index.settings = true := by
    refine (List.pairwise_map.mp assigns.distinct).imp_of_mem ?_
    intro left right member memberRight apart same
    by_contra level
    simp only [not_or, Bool.not_eq_true] at level
    have down := Discovery.leadsDown_of_matches named level.1 (matched left member)
    have downRight := Discovery.leadsDown_of_matches named level.2 (matched right memberRight)
    exact apart (down.components_eq downRight same)
  refine ⟨places, ?files, ?clashes⟩
  case files =>
    intro left member right memberRight same
    obtain ⟨tree, standing⟩ := Surroundings.isThere_iff.mp
      (Surroundings.isThere_of_isFile (matched left member).file)
    obtain ⟨other, standingRight⟩ := Surroundings.isThere_iff.mp
      (Surroundings.isThere_of_isFile (matched right memberRight).file)
    rw [standing, standingRight, Surroundings.look_eq_of_resolved_eq
      (assigns.absolute left member) (assigns.absolute right memberRight) same standing
      standingRight]
  case clashes =>
    intro id first second fails
    have clashes := Index.clashesWith_of_load_duplicateId valid found fails
    generalize shape : Error.duplicateId id first second = error at clashes
    cases Index.splitsAt_of_clashesWith clashes with
    | @intro before after left right _ member held repeated distinct =>
        cases shape
        have apart := (List.pairwise_append.mp places).2.2 left member right List.mem_cons_self
        refine ⟨left, right, ?_, rfl, rfl, apart⟩
        exact (List.singleton_sublist.mpr member).append
          (List.singleton_sublist.mpr List.mem_cons_self)

/-- No glob of the guide climbs, so the two files of the clash are different. -/
theorem one_file_twice_only_if_climbing_recipes :
    Index.clashCandidates.Pairwise fun left right => left.path.resolved ≠ right.path.resolved := by
  have named : Index.clashAround.files.Named FileTree.IsFileName := by
    simp only [Index.clashAround, FileTree.named_directory_iff, List.forall_mem_cons,
      List.not_mem_nil, false_imp_iff, implies_true, and_true, FileTree.Named.file]
    decide
  obtain ⟨places, -, -⟩ := @one_file_twice_only_if_climbing Index.clashAround
    (Index.fresh Index.guideSettings) Index.clashCandidates rfl named rfl Index.discover_clash
  refine places.imp_of_mem ?_
  intro left right member memberRight climbing same
  have level : ∀ candidate ∈ Index.clashCandidates,
      candidate.climbs Index.guideSettings = false := by decide +kernel
  rcases climbing same with climbs | climbs
  · cases (level left member).symm.trans climbs
  · cases (level right memberRight).symm.trans climbs

/-! ## A glob that climbs -/

def notesAround : Surroundings where
  files := .directory [("guide", .directory [("recipes", .directory [
    ("notes.rcp", .file (.text "---\nid: notes\n---\n") Moment.epoch)])])]
  workingDirectory := ⟨"/"⟩
  user? := none

def climbingSettings : IndexSettings where
  root := ⟨"/guide"⟩
  types := [{ name := "recipe", glob := "recipes/*.rcp" },
    { name := "checklist", glob := "recipes/../recipes/*.rcp" }]

def notesCandidates : List Candidate :=
  [⟨⟨"/guide/recipes/notes.rcp"⟩, 0⟩, ⟨⟨"/guide/recipes/../recipes/notes.rcp"⟩, 1⟩]

theorem discover_notes : discover notesAround climbingSettings = .ok notesCandidates := by
  have recipes : Discovery.filesOf notesAround ⟨"/guide"⟩
      { name := "recipe", glob := "recipes/*.rcp" } = .ok [⟨"/guide/recipes/notes.rcp"⟩] :=
    Index.filesOf_of_sorted (by rfl) (by decide +kernel)
  have checklists : Discovery.filesOf notesAround ⟨"/guide"⟩
      { name := "checklist", glob := "recipes/../recipes/*.rcp" } =
        .ok [⟨"/guide/recipes/../recipes/notes.rcp"⟩] :=
    Index.filesOf_of_sorted (by rfl) (by decide +kernel)
  change Discovery.candidatesFrom notesAround ⟨"/guide"⟩ 0 [] _ = _
  simp only [climbingSettings, Discovery.candidatesFrom, recipes, checklists]
  rfl

/-- The only document of a guide is found twice, and clashes with itself. -/
theorem one_file_twice : climbingSettings.validate notesAround = .ok () ∧
    discover notesAround climbingSettings = .ok notesCandidates ∧
    notesCandidates.map (·.path.resolved) =
      [["guide", "recipes", "notes.rcp"], ["guide", "recipes", "notes.rcp"]] ∧
    ((Index.fresh climbingSettings).load notesAround).1 = .error (.duplicateId "notes"
      "/guide/recipes/notes.rcp" "/guide/recipes/../recipes/notes.rcp") := by
  have valid : climbingSettings.validate notesAround = .ok () := by rfl
  refine ⟨valid, discover_notes, by decide +kernel, ?_⟩
  have notes : (⟨⟨"/guide/recipes/notes.rcp"⟩, 0⟩ : Candidate) ∈ notesCandidates.take 1 := by decide
  have clashes : Index.ClashesWith notesAround climbingSettings notesCandidates
      (.duplicateId "notes" "/guide/recipes/notes.rcp" "/guide/recipes/../recipes/notes.rcp") :=
    Index.clashesWith_of_splitsAt
      (.intro notes (by decide +kernel) (by decide +kernel) (by decide +kernel))
  have load := (@Index.load_eq_error_iff notesAround notesCandidates _
    (Index.fresh climbingSettings) _ rfl valid discover_notes rfl).mpr ⟨rfl, clashes⟩
  rw [load]

end Guidebook
