import Guidebook.Config.Basic
import Mathlib.Data.List.Nodup

/-!
# Settings of a valid configuration

A configuration is checked over its lists of types and backends, the settings of an
index over the types for which a backend has places.  This module says what each of
the two checks lets pass, and derives that the settings of a backend of a valid
configuration are as good as checked: of all that the second check looks at, only a
glob can be at fault.
-/

namespace Guidebook

/-! ## Valid configurations -/

namespace Config

/-- A configuration without a fault. -/
structure Valid (config : Config) : Prop where
  typed : config.types ≠ []
  served : config.backends ≠ []
  named : ∀ type ∈ config.types, type.name ≠ ""
  distinct : (config.types.map (·.name)).Nodup
  required : ∀ type ∈ config.types, type.requiredFields = [] ∨ "id" ∈ type.requiredFields
  located : ∀ backend ∈ config.backends, backend.locations ≠ []
  defined : ∀ backend ∈ config.backends, ∀ location ∈ backend.locations,
    location.1 ∈ config.types.map (·.name)

/-- Types pass if their names are new and distinct, and what they require is sound. -/
theorem typesFault?_eq_none_iff {index : Nat} {names : List String} {types : List TypeConfig} :
    typesFault? index names types = none ↔
      (∀ type ∈ types, type.name ≠ "" ∧ type.name ∉ names ∧
        (type.requiredFields = [] ∨ "id" ∈ type.requiredFields)) ∧
      (types.map (·.name)).Nodup := by
  induction types generalizing index names with
  | nil => simp [typesFault?]
  | cons type rest ih =>
      rw [typesFault?, List.forall_mem_cons, List.map_cons, List.nodup_cons]
      by_cases empty : type.name = ""
      · simp [empty]
      · by_cases seen : type.name ∈ names
        · simp [empty, seen]
        · by_cases sound : type.requiredFields = [] ∨ "id" ∈ type.requiredFields
          · have passed : (!type.requiredFields.isEmpty &&
                !type.requiredFields.contains "id") = false := by
              rcases sound with none | some
              · simp [none]
              · simp [some]
            -- the rest is checked against one name more, so that name must not come again
            simp only [String.isEmpty_iff, empty, List.contains_iff_mem, seen, passed, if_false,
              Bool.false_eq_true, ih, List.mem_cons, not_or, sound]
            simp only [List.mem_map, not_exists, not_and]
            grind
          · rw [not_or] at sound
            simp [empty, seen, sound]

/-- Backends pass if they have places, and places for the given types only. -/
theorem backendsFault?_eq_none_iff {names : List String} {index : Nat}
    {backends : List BackendConfig} :
    backendsFault? names index backends = none ↔ ∀ backend ∈ backends,
      backend.locations ≠ [] ∧ ∀ location ∈ backend.locations, location.1 ∈ names := by
  induction backends generalizing index with
  | nil => simp [backendsFault?]
  | cons backend rest ih =>
      rw [backendsFault?, List.forall_mem_cons]
      by_cases empty : backend.locations = []
      · simp [empty]
      · rw [if_neg (by simpa using empty)]
        split
        · next name glob found =>
            have outside := List.find?_some found
            have member := List.mem_of_find?_eq_some found
            constructor
            · rintro ⟨⟩
            · rintro ⟨⟨-, defined⟩, -⟩
              simp [defined _ member] at outside
        · next absent =>
            rw [ih]
            simp only [List.find?_eq_none, Bool.not_eq_true', Bool.not_eq_false,
              List.contains_iff_mem] at absent
            exact ⟨fun later => ⟨⟨empty, by simpa using absent⟩, later⟩, fun all => all.2⟩

/-- The check lets exactly the valid configurations pass. -/
theorem validate_eq_ok_iff {config : Config} : config.validate = .ok () ↔ config.Valid := by
  have passes : config.validate = .ok () ↔ config.fault? = none := by
    unfold validate
    cases config.fault? <;> simp
  rw [passes, fault?]
  constructor
  · intro passed
    split at passed
    · cases passed
    · next typed =>
        split at passed
        · cases passed
        · next served =>
            obtain ⟨types, backends⟩ := Option.or_eq_none_iff.mp passed
            obtain ⟨sound, distinct⟩ := typesFault?_eq_none_iff.mp types
            have located := backendsFault?_eq_none_iff.mp backends
            exact {
              typed := by simpa using typed
              served := by simpa using served
              named := fun type member => (sound type member).1
              distinct := distinct
              required := fun type member => (sound type member).2.2
              located := fun backend member => (located backend member).1
              defined := fun backend member => (located backend member).2 }
  · intro valid
    rw [if_neg (by simpa using valid.typed), if_neg (by simpa using valid.served),
      Option.or_eq_none_iff]
    constructor
    · exact typesFault?_eq_none_iff.mpr ⟨fun type member =>
        ⟨valid.named type member, List.not_mem_nil, valid.required type member⟩, valid.distinct⟩
    · exact backendsFault?_eq_none_iff.mpr fun backend member =>
        ⟨valid.located backend member, valid.defined backend member⟩

end Config

/-! ## Sound settings -/

namespace IndexSettings

/-- The error of a type whose glob is no pattern. -/
def globFault? (type : DocumentType) : Option Error :=
  match Glob.parseItems type.glob with
  | .error error => some (globError type error)
  | .ok _ => none

theorem globFault?_eq_some_iff {type : DocumentType} {error : Error} :
    globFault? type = some error ↔
      ∃ fault, Glob.parseItems type.glob = .error fault ∧ error = globError type fault := by
  unfold globFault?
  cases Glob.parseItems type.glob <;> simp [eq_comm]

theorem globFault?_eq_none_iff {type : DocumentType} :
    globFault? type = none ↔ ∃ items, Glob.parseItems type.glob = .ok items := by
  unfold globFault?
  cases Glob.parseItems type.glob <;> simp

/-- Settings without a fault, but for their globs. -/
structure Sound (around : Surroundings) (settings : IndexSettings) : Prop where
  rooted : around.isDirectory settings.root = true
  typed : settings.types ≠ []
  named : ∀ type ∈ settings.types, type.name ≠ ""
  distinct : (settings.types.map (·.name)).Nodup
  working : settings.workers ≠ some 0

/-- Where names are new and distinct, the check of types is a search for a glob that is no
pattern. -/
theorem typesFault?_eq_findSome? {names : List String} {types : List DocumentType}
    (fresh : ∀ type ∈ types, type.name ≠ "" ∧ type.name ∉ names)
    (distinct : (types.map (·.name)).Nodup) :
    typesFault? names types = types.findSome? globFault? := by
  induction types generalizing names with
  | nil => rfl
  | cons type rest ih =>
      obtain ⟨⟨named, unseen⟩, restFresh⟩ := List.forall_mem_cons.mp fresh
      rw [List.map_cons, List.nodup_cons] at distinct
      have later : typesFault? (type.name :: names) rest = rest.findSome? globFault? := by
        apply ih _ distinct.2
        intro other member
        refine ⟨(restFresh other member).1, ?_⟩
        rw [List.mem_cons, not_or]
        refine ⟨fun same => distinct.1 ?_, (restFresh other member).2⟩
        exact same ▸ List.mem_map_of_mem member
      rw [typesFault?, if_neg (by simpa using named), if_neg (by simpa using unseen),
        List.findSome?_cons, globFault?, later]
      cases Glob.parseItems type.glob <;> rfl

theorem fresh_of_typesFault?_eq_none {names : List String} {types : List DocumentType}
    (passes : typesFault? names types = none) :
    (∀ type ∈ types, type.name ≠ "" ∧ type.name ∉ names) ∧ (types.map (·.name)).Nodup := by
  induction types generalizing names with
  | nil => simp
  | cons type rest ih =>
      rw [typesFault?] at passes
      split at passes
      · cases passes
      · next named =>
          split at passes
          · cases passes
          · next unseen =>
              split at passes
              · cases passes
              · obtain ⟨restFresh, restDistinct⟩ := ih passes
                simp only [List.mem_cons, not_or] at restFresh
                rw [List.forall_mem_cons, List.map_cons, List.nodup_cons]
                refine ⟨⟨⟨by simpa using named, by simpa using unseen⟩, fun other member =>
                  ⟨(restFresh other member).1, (restFresh other member).2.2⟩⟩, ?_, restDistinct⟩
                intro again
                obtain ⟨other, member, same⟩ := List.mem_map.mp again
                exact (restFresh other member).2.1 same

/-- Of sound settings only a glob can be at fault. -/
theorem Sound.fault?_eq {around : Surroundings} {settings : IndexSettings}
    (sound : settings.Sound around) :
    settings.fault? around = settings.types.findSome? globFault? := by
  have types : typesFault? [] settings.types = settings.types.findSome? globFault? :=
    typesFault?_eq_findSome?
      (fun type member => ⟨sound.named type member, List.not_mem_nil⟩) sound.distinct
  rw [fault?, if_neg (by simp [sound.rooted]), if_neg (by simpa using sound.typed), types,
    if_neg sound.working]
  cases settings.types.findSome? globFault? <;> rfl

theorem validate_eq_ok_iff_fault? {around : Surroundings} {settings : IndexSettings} :
    settings.validate around = .ok () ↔ settings.fault? around = none := by
  unfold validate
  cases settings.fault? around <;> simp

theorem Sound.validate_eq_ok_iff {around : Surroundings} {settings : IndexSettings}
    (sound : settings.Sound around) :
    settings.validate around = .ok () ↔
      ∀ type ∈ settings.types, ∃ items, Glob.parseItems type.glob = .ok items := by
  rw [validate_eq_ok_iff_fault?, sound.fault?_eq, List.findSome?_eq_none_iff]
  exact forall₂_congr fun type _ => globFault?_eq_none_iff

theorem Sound.exists_of_error {around : Surroundings} {settings : IndexSettings}
    (sound : settings.Sound around) {error : Error}
    (fails : settings.validate around = .error error) :
    ∃ type ∈ settings.types, ∃ fault,
      Glob.parseItems type.glob = .error fault ∧ error = globError type fault := by
  rw [validate, sound.fault?_eq] at fails
  split at fails
  · next found =>
      cases fails
      obtain ⟨type, member, faulty⟩ := List.exists_of_findSome?_eq_some found
      exact ⟨type, member, globFault?_eq_some_iff.mp faulty⟩
  · cases fails

/-- Settings that pass are sound. -/
theorem Sound.of_validate {around : Surroundings} {settings : IndexSettings}
    (passes : settings.validate around = .ok ()) : settings.Sound around := by
  rw [validate_eq_ok_iff_fault?] at passes
  unfold fault? at passes
  split at passes
  · cases passes
  · next rooted =>
      split at passes
      · cases passes
      · next typed =>
          split at passes
          · cases passes
          · next types =>
              obtain ⟨fresh, distinct⟩ := fresh_of_typesFault?_eq_none types
              exact {
                rooted := by simpa using rooted
                typed := by simpa using typed
                named := fun type member => (fresh type member).1
                distinct := distinct
                working := by
                  intro idle
                  rw [if_pos idle] at passes
                  cases passes }

end IndexSettings

/-! ## From a configuration to settings -/

namespace Config

variable {around : Surroundings} {config : Config} {backend : BackendConfig}

/-- Why the root directory of a backend cannot be used. -/
inductive RootFault (around : Surroundings) (config : Config) (root : String) :
    (reason : String) → Prop where
  /-- The root is below the home directory, and there is none. -/
  | homeless (below : root.toList.head? = some '~') (unknown : around.home = none) :
      RootFault around config root
        s!"cannot expand rootDir '{root}': home directory is unknown"
  /-- The root stands for a path at which there is no directory. -/
  | missing {path : Path}
      (stands : expandRoot around (config.directory around) root = .ok path)
      (absent : around.isDirectory path = false) :
      RootFault around config root
        s!"rootDir '{root}' resolves to {path.text}, which is not an existing directory"

theorem expandRoot_cases (around : Surroundings) (base : Path) (root : String) :
    (∃ path, expandRoot around base root = .ok path) ∨
      root.toList.head? = some '~' ∧ around.home = none ∧ expandRoot around base root =
        .error (.config s!"cannot expand rootDir '{root}': home directory is unknown") := by
  unfold expandRoot
  split
  · exact .inl ⟨base, rfl⟩
  · next rest shape =>
      cases known : around.home with
      | none => exact .inr ⟨by rw [shape]; rfl, rfl, rfl⟩
      | some home =>
          refine .inl ?_
          dsimp only
          split <;> exact ⟨_, rfl⟩
  · exact .inl ⟨_, rfl⟩

theorem resolveRoot_of_expandRoot {base path : Path} {root : String}
    (stands : expandRoot around base root = .ok path) :
    resolveRoot around base root = if around.isDirectory path then .ok path else .error <|
      .config s!"rootDir '{root}' resolves to {path.text}, which is not an existing directory" := by
  rw [resolveRoot, stands]
  change (if !around.isDirectory path then _ else _) = _
  cases around.isDirectory path <;> rfl

/-- A root directory is there, or it is at fault. -/
theorem resolveRoot_cases (around : Surroundings) (config : Config) (root : String) :
    (∃ path, resolveRoot around (config.directory around) root = .ok path ∧
      around.isDirectory path = true) ∨
    ∃ reason, resolveRoot around (config.directory around) root = .error (.config reason) ∧
      RootFault around config root reason := by
  rcases expandRoot_cases around (config.directory around) root with
    ⟨path, stands⟩ | ⟨below, unknown, fails⟩
  · cases there : around.isDirectory path with
    | true =>
        refine .inl ⟨path, ?_, there⟩
        rw [resolveRoot_of_expandRoot stands, if_pos there]
    | false =>
        refine .inr ⟨_, ?_, .missing stands there⟩
        rw [resolveRoot_of_expandRoot stands, there, if_neg Bool.false_ne_true]
  · refine .inr ⟨_, ?_, .homeless below unknown⟩
    rw [resolveRoot, fails]
    rfl

theorem type?_isSome_iff (config : Config) (name : String) :
    (config.type? name).isSome ↔ name ∈ config.types.map (·.name) := by
  simp [type?]

/-- A backend of a valid configuration has places for types of the configuration only. -/
theorem Valid.find?_undefined_eq_none (valid : config.Valid)
    (configured : backend ∈ config.backends) :
    (backend.locations.find? fun location => (config.type? location.1).isNone) = none := by
  rw [List.find?_eq_none]
  intro location member undefined
  have defined := (config.type?_isSome_iff location.1).mpr
    (valid.defined backend configured location member)
  rw [Option.isNone_iff_eq_none.mp undefined] at defined
  cases defined

end Config

namespace IndexSettings

variable {around : Surroundings} {config : Config} {backend : BackendConfig}

/-- The settings of a backend whose root directory is at a path. -/
def ofRoot (config : Config) (backend : BackendConfig) (root : Path) : IndexSettings where
  name := if backend.name.isEmpty then BackendConfig.typeName else backend.name
  root := root
  types := config.types.filterMap fun type => (backend.locations.lookup type.name).map type.at
  requireExplicitId := backend.requireExplicitId
  workers := config.workers

/-- Where all places are for types of the configuration, only the root directory can be at
fault. -/
theorem ofConfig_eq_map
    (defined :
      (backend.locations.find? fun location => (config.type? location.1).isNone) = none) :
    ofConfig around config backend =
      (Config.resolveRoot around (config.directory around) backend.rootDirectory).map
        (ofRoot config backend) := by
  rw [ofConfig, defined]
  cases Config.resolveRoot around (config.directory around) backend.rootDirectory <;> rfl

/-- The settings fit a backend of a configuration: their types are the types for which
the backend has places, and no fault but that of a glob can be found in them. -/
structure Fits (around : Surroundings) (config : Config) (backend : BackendConfig)
    (settings : IndexSettings) : Prop where
  sound : settings.Sound around
  /-- The types stand once each, in the order of the configuration. -/
  names : settings.types.map (·.name) =
    (config.types.map (·.name)).filter fun name => (backend.locations.map (·.1)).contains name
  /-- Each type is one of the configuration, with the glob of its place. -/
  described : ∀ type ∈ settings.types, ∃ origin ∈ config.types,
    origin.name = type.name ∧ backend.locations.lookup type.name = some type.glob ∧
      type.requiredFields = origin.requiredFields ∧
      type.extension = origin.extensionHint.map DocumentType.extensionOfHint
  /-- Every place is for one of the types. -/
  covered : ∀ location ∈ backend.locations, location.1 ∈ settings.types.map (·.name)
  required : ∀ type ∈ settings.types, type.requiredFields = [] ∨ "id" ∈ type.requiredFields
  undotted : ∀ type ∈ settings.types, ∀ extension, type.extension = some extension →
    extension.toList.head? ≠ some '.'

theorem extensionOfHint_undotted (hint : String) :
    (DocumentType.extensionOfHint hint).toList.head? ≠ some '.' := by
  rw [DocumentType.extensionOfHint, String.toList_ofList]
  intro dotted
  have kept := List.head?_dropWhile_not (· == '.') hint.toList
  rw [dotted] at kept
  simp at kept

theorem mem_types_iff {root : Path} {type : DocumentType} :
    type ∈ (ofRoot config backend root).types ↔ ∃ origin ∈ config.types, ∃ glob,
      backend.locations.lookup origin.name = some glob ∧ origin.at glob = type := by
  simp [ofRoot, List.mem_filterMap]

theorem names_types (types : List TypeConfig) (locations : List (String × String)) :
    (types.filterMap fun type => (locations.lookup type.name).map type.at).map (·.name) =
      (types.map (·.name)).filter fun name => (locations.map (·.1)).contains name := by
  induction types with
  | nil => rfl
  | cons type rest ih =>
      have present := Keyed.lookup_isSome_iff_mem type.name locations
      rw [List.filterMap_cons, List.map_cons, List.filter_cons, ← ih]
      cases found : locations.lookup type.name with
      | none =>
          rw [found] at present
          rw [if_neg (by simpa using present)]
          rfl
      | some glob =>
          rw [found] at present
          rw [if_pos (by simpa using present)]
          rfl

theorem Fits.of_valid (valid : config.Valid) (configured : backend ∈ config.backends)
    {root : Path} (there : around.isDirectory root = true) :
    Fits around config backend (ofRoot config backend root) := by
  have names : (ofRoot config backend root).types.map (·.name) = _ :=
    names_types config.types backend.locations
  have covered : ∀ location ∈ backend.locations,
      location.1 ∈ (ofRoot config backend root).types.map (·.name) := by
    intro location member
    rw [names, List.mem_filter, List.contains_iff_mem]
    exact ⟨valid.defined backend configured location member, List.mem_map_of_mem member⟩
  have named : ∀ type ∈ (ofRoot config backend root).types, type.name ≠ "" := by
    intro type member
    obtain ⟨origin, held, glob, -, rfl⟩ := mem_types_iff.mp member
    exact valid.named origin held
  exact {
    sound := {
      rooted := there
      typed := by
        intro none
        obtain ⟨location, member⟩ :=
          List.exists_mem_of_ne_nil _ (valid.located backend configured)
        have listed := covered location member
        rw [none] at listed
        cases listed
      named := named
      distinct := by
        rw [names]
        exact valid.distinct.filter _
      working := by
        change config.workers ≠ some 0
        unfold Config.workers
        split
        · exact Option.some_ne_none 0 ∘ Eq.symm
        · next given => exact fun idle => given (Option.some.inj idle) }
    names := names
    described := by
      intro type member
      obtain ⟨origin, held, glob, placed, rfl⟩ := mem_types_iff.mp member
      exact ⟨origin, held, rfl, placed, rfl, rfl⟩
    covered := covered
    required := by
      intro type member
      obtain ⟨origin, held, glob, -, rfl⟩ := mem_types_iff.mp member
      exact valid.required origin held
    undotted := by
      intro type member extension demanded
      obtain ⟨origin, -, glob, -, rfl⟩ := mem_types_iff.mp member
      obtain ⟨hint, -, rfl⟩ := Option.map_eq_some_iff.mp demanded
      exact extensionOfHint_undotted hint }

/-- A backend of a valid configuration refers to types of the configuration only.  Its
settings fail with an error about the root directory, or they fit; then the check of the
settings succeeds exactly if all globs are patterns, and where it fails it names a glob
that is none. -/
theorem ofConfig_fits (around : Surroundings) {config : Config} {backend : BackendConfig}
    (valid : config.validate = .ok ()) (configured : backend ∈ config.backends) :
    (backend.locations.find? fun location => (config.type? location.1).isNone) = none ∧
    ((∃ reason, ofConfig around config backend = .error (.config reason) ∧
        Config.RootFault around config backend.rootDirectory reason) ∨
      ∃ settings, ofConfig around config backend = .ok settings ∧
        Fits around config backend settings ∧
        (settings.validate around = .ok () ↔
          ∀ type ∈ settings.types, ∃ items, Glob.parseItems type.glob = .ok items) ∧
        ∀ error, settings.validate around = .error error →
          ∃ type ∈ settings.types, ∃ fault,
            Glob.parseItems type.glob = .error fault ∧ error = globError type fault) := by
  have isValid := Config.validate_eq_ok_iff.mp valid
  have defined := isValid.find?_undefined_eq_none configured
  refine ⟨defined, ?_⟩
  rw [ofConfig_eq_map defined]
  rcases Config.resolveRoot_cases around config backend.rootDirectory with
    ⟨root, resolved, there⟩ | ⟨reason, fails, fault⟩
  · rw [resolved]
    have fits := Fits.of_valid isValid configured there
    exact .inr ⟨_, rfl, fits, fits.sound.validate_eq_ok_iff, fun _ => fits.sound.exists_of_error⟩
  · rw [fails]
    exact .inl ⟨reason, rfl, fault⟩

/-! ## A type without a place -/

def bareAround : Surroundings where
  files := .directory [("guide", .directory [])]
  workingDirectory := ⟨"/"⟩
  user? := none

def recipeBackend : BackendConfig where
  rootDirectory := "guide"
  locations := [("recipe", "recipes/[a-z]*")]

def recipeConfig : Config where
  types := [{ name := "behavior", requiredFields := ["id", "description"] },
    { name := "recipe", extensionHint := some "..rcp" }]
  backends := [recipeBackend]

theorem ofConfig_fits_unlocated_type :
    recipeConfig.validate = .ok () ∧ recipeBackend ∈ recipeConfig.backends ∧
      ∃ settings, ofConfig bareAround recipeConfig recipeBackend = .ok settings ∧
        Fits bareAround recipeConfig recipeBackend settings ∧
        settings.validate bareAround = .ok () ∧
        settings.types = [{
          name := "recipe", glob := "recipes/[a-z]*", extension := some "rcp" }] := by
  have valid : recipeConfig.validate = .ok () := rfl
  have configured : recipeBackend ∈ recipeConfig.backends := List.mem_singleton.mpr rfl
  have given : ofConfig bareAround recipeConfig recipeBackend =
      .ok (ofRoot recipeConfig recipeBackend ⟨"/guide"⟩) := rfl
  rcases (ofConfig_fits bareAround valid configured).2 with
    ⟨reason, fails, -⟩ | ⟨settings, succeeds, fits, -, -⟩
  · cases given.symm.trans fails
  · cases given.symm.trans succeeds
    exact ⟨valid, configured, _, given, fits, rfl, rfl⟩

end IndexSettings

end Guidebook
