import Guidebook.Proofs.Loadability

/-!
# The nearest configuration

A search for a configuration looks at its candidates from the nearest to the farthest and takes
the first one that is a file.  What the file holds is of no importance to the search, so a
configuration that is at fault is not passed over; and nothing but the candidates up to this
file, and its text, is of importance to the result.
-/

namespace Guidebook

/-- The path that lies so many steps above a path. -/
def Path.above? : (steps : Nat) → Path → Option Path
  | 0, path => some path
  | steps + 1, path => path.parent?.bind (above? steps)

namespace Config

/-- The files of a configuration in a directory. -/
def filesIn (directory : Path) : List Path :=
  [directory.join "config.yaml", directory.join "config.toml"]

/-- The directories of a project: the working directory and up to three above it. -/
def projects (around : Surroundings) : List Path :=
  (List.range 4).filterMap around.workingDirectory.above?

/-- The places of a configuration, from the nearest to the farthest.  The last are those of the
user, when there is a home directory. -/
def places (around : Surroundings) : List Path :=
  (projects around).flatMap (fun project => filesIn (project.join ".agent/service")) ++
    around.user?.toList.flatMap fun user => filesIn user.configurations

/-- No file of a configuration is named by the environment. -/
def Unnamed (around : Surroundings) : Prop :=
  ∀ text, around.variableValue? "WAYMARK_CONFIG" = some text → text = ""

/-- A search looks at places in order and ends with the file that it chooses. -/
inductive Finds (around : Surroundings) :
    (explicit : Option Path) → (looked : List Path) → (chosen : Option Path) → Prop where
  | explicit {path : Path} : Finds around (some path) [] (some path)
  | environment {text : String} (nonempty : text ≠ "")
      (named : around.variableValue? "WAYMARK_CONFIG" = some text) :
      Finds around none [] (some ⟨text⟩)
  | nearest {nearer farther : List Path} {path : Path} (unnamed : Unnamed around)
      (order : places around = nearer ++ path :: farther) (file : around.isFile path = true)
      (passed : ∀ other ∈ nearer, around.isFile other = false) :
      Finds around none (nearer ++ [path]) (some path)
  | nowhere (unnamed : Unnamed around)
      (passed : ∀ other ∈ places around, around.isFile other = false) :
      Finds around none (places around) none

/-- In other surroundings, the places that a search looks at are files where they have been, and
the chosen file has the same text. -/
structure LooksSame (around other : Surroundings) (looked : List Path) (chosen : Option Path) :
    Prop where
  files : ∀ path ∈ looked, other.isFile path = around.isFile path
  text : ∀ path ∈ chosen,
    (other.readFile path).map Prod.fst = (around.readFile path).map Prod.fst

/-- The configuration in the file that a search chooses. -/
def loadChosen (around : Surroundings) : (chosen : Option Path) → Except Error Config
  | some path => loadFrom around path
  | none => .error <| .config <|
      "no configuration file found (.agent/service/config.yaml in the working directory " ++
        "or its parents, or $WAYMARK_CONFIG)"

variable {around other : Surroundings} {explicit chosen : Option Path} {looked : List Path}

/-! ## The places of a configuration -/

theorem ancestors_eq (count : Nat) (path : Path) :
    ancestors count path = (List.range (count + 1)).filterMap path.above? := by
  induction count generalizing path with
  | zero => rfl
  | succ count ih =>
      -- One step and more lead from the path as no step and more lead from its parent.
      rw [List.range_succ_eq_map, List.filterMap_cons, List.filterMap_map]
      cases above : path.parent? with
      | none =>
          have nothing : path.above? ∘ Nat.succ = fun _ => none := by
            funext steps
            simp [Path.above?, above]
          rw [nothing]
          simp [ancestors, above, Path.above?]
      | some parent =>
          have further : path.above? ∘ Nat.succ = parent.above? := by
            funext steps
            simp [Path.above?, above]
          rw [further, ← ih parent]
          simp [ancestors, above, Path.above?]

theorem candidates_eq (around : Surroundings) : candidates around = places around := by
  rw [candidates, ancestors_eq, List.flatMap_append, List.flatMap_map, userDirectory?,
    Option.toList_map, List.flatMap_map]
  rfl

/-! ## What a search finds -/

theorem unnamed_iff :
    Unnamed around ↔ (around.variableValue? variableName).filter (!·.isEmpty) = none := by
  simp [Unnamed, variableName, Option.filter_eq_none_iff]

theorem find?_isFile_eq_some_iff {files : List Path} {path : Path} :
    files.find? around.isFile = some path ↔
      ∃ nearer farther, files = nearer ++ path :: farther ∧ around.isFile path = true ∧
        ∀ other ∈ nearer, around.isFile other = false := by
  simp only [List.find?_eq_some_iff_append, Bool.not_eq_true']
  constructor
  · rintro ⟨file, nearer, farther, order, passed⟩
    exact ⟨nearer, farther, order, file, passed⟩
  · rintro ⟨nearer, farther, order, file, passed⟩
    exact ⟨file, nearer, farther, order, passed⟩

theorem find?_isFile_eq_none_iff {files : List Path} :
    files.find? around.isFile = none ↔ ∀ other ∈ files, around.isFile other = false := by
  simp only [List.find?_eq_none, Bool.not_eq_true]

/-- Every search ends: with a file, or after it has looked at all places. -/
theorem exists_finds (around : Surroundings) (explicit : Option Path) :
    ∃ looked chosen, Finds around explicit looked chosen := by
  cases explicit with
  | some path => exact ⟨_, _, .explicit⟩
  | none =>
      by_cases unnamed : Unnamed around
      · cases found : (places around).find? around.isFile with
        | some path =>
            obtain ⟨nearer, farther, order, file, passed⟩ := find?_isFile_eq_some_iff.mp found
            exact ⟨_, _, .nearest unnamed order file passed⟩
        | none => exact ⟨_, _, .nowhere unnamed (find?_isFile_eq_none_iff.mp found)⟩
      · simp only [Unnamed, not_forall] at unnamed
        obtain ⟨text, named, nonempty⟩ := unnamed
        exact ⟨_, _, .environment nonempty named⟩

/-- The configuration is the one of the chosen file, also where this one is at fault. -/
theorem Finds.discover_eq (finds : Finds around explicit looked chosen) :
    discover around explicit = loadChosen around chosen := by
  cases finds with
  | explicit => rfl
  | @environment text nonempty named =>
      have kept : (around.variableValue? variableName).filter (!·.isEmpty) = some text := by
        rw [variableName, named]
        simp [nonempty]
      rw [discover, kept]
      rfl
  | nearest unnamed order file passed =>
      have found := find?_isFile_eq_some_iff.mpr ⟨_, _, order, file, passed⟩
      rw [discover, unnamed_iff.mp unnamed, candidates_eq, found]
      rfl
  | nowhere unnamed passed =>
      have found := find?_isFile_eq_none_iff.mpr passed
      rw [discover, unnamed_iff.mp unnamed, candidates_eq, found]
      rfl

/-! ## Other files in the same directories -/

/-- Only the text of a file matters, not the time of its last change. -/
theorem loadFrom_congr {files : FileTree} {path : Path}
    (text : (Surroundings.readFile { around with files } path).map Prod.fst =
      (around.readFile path).map Prod.fst) :
    loadFrom { around with files } path = loadFrom around path := by
  rw [loadFrom, loadFrom]
  cases left : Surroundings.readFile { around with files } path <;>
    cases right : around.readFile path <;> simp_all [Except.map]

/-- A search finds the same file among other files that look the same to it. -/
theorem Finds.of_looksSame {files : FileTree} (finds : Finds around explicit looked chosen)
    (same : LooksSame around { around with files } looked chosen) :
    Finds { around with files } explicit looked chosen := by
  cases finds with
  | explicit => exact .explicit
  | environment nonempty named => exact .environment nonempty named
  | nearest unnamed order file passed =>
      refine .nearest unnamed order ?_ ?_
      · rw [same.files _ (by simp), file]
      · intro other held
        rw [same.files other (by simp [held]), passed other held]
  | nowhere unnamed passed =>
      refine .nowhere unnamed ?_
      intro other held
      rw [same.files other held, passed other held]

/-- The nearest configuration is taken, and those that are farther away do not matter. -/
theorem discover_nearest (around : Surroundings) (explicit : Option Path) :
    (∃ looked chosen, Finds around explicit looked chosen) ∧
    ∀ looked chosen, Finds around explicit looked chosen →
      discover around explicit = loadChosen around chosen ∧
      ∀ files, LooksSame around { around with files } looked chosen →
        discover { around with files } explicit = discover around explicit := by
  refine ⟨exists_finds around explicit, ?_⟩
  intro looked chosen finds
  refine ⟨finds.discover_eq, ?_⟩
  intro files same
  rw [finds.discover_eq, (finds.of_looksSame same).discover_eq]
  cases chosen with
  | none => rfl
  | some path => exact loadFrom_congr (same.text path rfl)

/-! ## A user with a configuration -/

/-- A configuration that is read but not valid is refused for what is wrong with it. -/
theorem loadFrom_of_invalid {path : Path} {text : String} {time : Moment} {written : Config}
    {error : Error} (read : around.readFile path = .ok (text, time))
    (parsed : parse? path text = some written)
    (invalid : { written with source := some path }.validate = .error error) :
    loadFrom around path = .error error := by
  rw [loadFrom, read]
  simp only [parsed, invalid]
  rfl

/-- The surroundings of a user with a valid configuration, who works on a project. -/
def deskAround (project : List (String × FileTree)) : Surroundings where
  files := .directory [
    ("home", .directory [(".config", .directory [("waymark", .directory [
      ("config.toml", .file (.text Command.pairText) Moment.epoch),
      ("config.yaml", .directory [])])])]),
    ("work", .directory project)]
  workingDirectory := ⟨"/work"⟩
  user? := some ⟨⟨"/home"⟩, ⟨"/home/.config/waymark"⟩⟩

/-- The files of a project with a configuration that has no types. -/
def draftProject : List (String × FileTree) :=
  [(".agent", .directory [("service", .directory [
    ("config.toml", .file (.text "backends = []") Moment.epoch)])])]

theorem places_deskAround (project : List (String × FileTree)) :
    places (deskAround project) =
      [⟨"/work/.agent/service/config.yaml"⟩, ⟨"/work/.agent/service/config.toml"⟩,
        ⟨"/.agent/service/config.yaml"⟩, ⟨"/.agent/service/config.toml"⟩,
        ⟨"/home/.config/waymark/config.yaml"⟩, ⟨"/home/.config/waymark/config.toml"⟩] := by
  have alike : places (deskAround project) = places (deskAround []) := rfl
  rw [alike]
  rfl

theorem unnamed_deskAround (project : List (String × FileTree)) :
    Unnamed (deskAround project) := by
  intro text named
  cases named

/-- Without a configuration in the project, the one of the user is found, past a directory that
has the name of one. -/
theorem finds_deskAround : Finds (deskAround []) none
    ([⟨"/work/.agent/service/config.yaml"⟩, ⟨"/work/.agent/service/config.toml"⟩,
      ⟨"/.agent/service/config.yaml"⟩, ⟨"/.agent/service/config.toml"⟩,
      ⟨"/home/.config/waymark/config.yaml"⟩] ++ [⟨"/home/.config/waymark/config.toml"⟩])
    (some ⟨"/home/.config/waymark/config.toml"⟩) :=
  .nearest (unnamed_deskAround []) (places_deskAround []) (by decide +kernel) (by decide +kernel)

theorem finds_deskAround_draftProject : Finds (deskAround draftProject) none
    ([⟨"/work/.agent/service/config.yaml"⟩] ++ [⟨"/work/.agent/service/config.toml"⟩])
    (some ⟨"/work/.agent/service/config.toml"⟩) :=
  .nearest (unnamed_deskAround draftProject) (places_deskAround draftProject)
    (by decide +kernel) (by decide +kernel)

/-- The configuration of the user is found.  With one in the project it is passed over, although
the one of the project is refused; whether it is there does not matter then. -/
theorem discover_nearest_user :
    discover (deskAround []) none =
      .ok { Command.pairConfig with source := some ⟨"/home/.config/waymark/config.toml"⟩ } ∧
    discover (deskAround draftProject) none =
      .error (.config "'entityTypes' is required and cannot be empty") ∧
    discover { deskAround draftProject with
      files := .directory [("work", .directory draftProject)] } none =
      discover (deskAround draftProject) none := by
  obtain ⟨found, -⟩ := (discover_nearest (deskAround []) none).2 _ _ finds_deskAround
  obtain ⟨refused, unchanged⟩ :=
    (discover_nearest (deskAround draftProject) none).2 _ _ finds_deskAround_draftProject
  refine ⟨?_, ?_, unchanged _ ⟨?_, ?_⟩⟩
  · have read : (deskAround []).readFile ⟨"/home/.config/waymark/config.toml"⟩ =
        .ok (Command.pairText, Moment.epoch) := rfl
    have parsed : parse? ⟨"/home/.config/waymark/config.toml"⟩ Command.pairText =
        some { Command.pairConfig with source := none } := Command.parse?_pairText
    rw [found, loadChosen, loadFrom_of_parse read parsed rfl]
  · have read : (deskAround draftProject).readFile ⟨"/work/.agent/service/config.toml"⟩ =
        .ok ("backends = []", Moment.epoch) := rfl
    have parsed : parse? ⟨"/work/.agent/service/config.toml"⟩ "backends = []" = some {} := by
      decide +kernel
    rw [refused, loadChosen]
    exact loadFrom_of_invalid read parsed rfl
  · decide +kernel
  · intro path held
    cases held
    rfl

end Config
end Guidebook
