import Guidebook.Command.Run
import Guidebook.Proofs.Nesting
import Guidebook.Proofs.Validity

/-!
# Checking and serving

The check of a configuration and a task that asks for documents both load its backends,
the one all of them, the other until the first failure.  This module says what it takes
for a backend to be loaded, and shows that both go by it alike.
-/

namespace Guidebook

/-- What a backend publishes, if it can be opened and loaded. -/
def BackendConfig.contents? (around : Surroundings) (config : Config)
    (backend : BackendConfig) : Option IndexContents :=
  match IndexSettings.ofConfig around config backend with
  | .error _ => none
  | .ok settings => (Index.contentsOf around settings).toOption

namespace Config

variable {around : Surroundings} {config : Config}

theorem validate_of_loadFrom {path : Path} (found : loadFrom around path = .ok config) :
    config.validate = .ok () := by
  unfold loadFrom at found
  split at found
  · cases found
  · split at found
    · cases found
    · obtain ⟨_, valid, same⟩ := bind_eq_ok_iff.mp found
      cases same
      exact valid

theorem loadFrom_of_parse {path : Path} {text : String} {time : Moment} {written : Config}
    (read : around.readFile path = .ok (text, time)) (parsed : parse? path text = some written)
    (valid : { written with source := some path }.validate = .ok ()) :
    loadFrom around path = .ok { written with source := some path } := by
  rw [loadFrom, read]
  simp only [parsed, valid]
  rfl

theorem backends_ne_nil_of_loadFrom {path : Path}
    (found : loadFrom around path = .ok config) : config.backends ≠ [] :=
  (validate_eq_ok_iff.mp (validate_of_loadFrom found)).served

end Config

namespace Command

variable {around : Surroundings} {config : Config}

/-! ## One backend -/

/-- Why a backend cannot be loaded: it has no settings, or its index fails. -/
inductive LoadFault (around : Surroundings) (config : Config) (backend : BackendConfig) :
    Failure → Prop where
  | settings {cause : Error}
      (refused : IndexSettings.ofConfig around config backend = .error cause) :
      LoadFault around config backend (.settings backend.name cause)
  | load {settings : IndexSettings} {cause : Error}
      (opened : IndexSettings.ofConfig around config backend = .ok settings)
      (fails : Index.contentsOf around settings = .error cause) :
      LoadFault around config backend (.load settings.name cause)

/-- The index of some settings after its load. -/
def loaded (settings : IndexSettings) (contents : IndexContents) : Index where
  settings := settings
  claimed := true
  contents := some contents

theorem loadIndex_of_opened {backend : BackendConfig} {settings : IndexSettings}
    (opened : IndexSettings.ofConfig around config backend = .ok settings) :
    loadIndex around config backend =
      match Index.contentsOf around settings with
      | .ok contents => .ok (loaded settings contents)
      | .error cause => .error (.load settings.name cause) := by
  have unclaimed : (Index.fresh settings).claimed = false := rfl
  rw [loadIndex, openIndex, opened]
  simp only [bind, Except.bind]
  cases found : Index.contentsOf around settings with
  | error cause =>
      have load := Index.load_of_error unclaimed found
      rw [load]
      rfl
  | ok contents =>
      have load := Index.load_of_ok unclaimed found
      rw [load]
      rfl

/-- A backend is at fault, or its index publishes what there is. -/
theorem loadIndex_cases (around : Surroundings) (config : Config) (backend : BackendConfig) :
    (∃ failure, loadIndex around config backend = .error failure ∧
      LoadFault around config backend failure ∧ backend.contents? around config = none) ∨
    ∃ settings contents, loadIndex around config backend = .ok (loaded settings contents) ∧
      IndexSettings.ofConfig around config backend = .ok settings ∧
      Index.contentsOf around settings = .ok contents ∧
      backend.contents? around config = some contents := by
  unfold BackendConfig.contents?
  cases opened : IndexSettings.ofConfig around config backend with
  | error cause =>
      refine .inl ⟨.settings backend.name cause, ?_, .settings opened, rfl⟩
      rw [loadIndex, openIndex, opened]
      rfl
  | ok settings =>
      rw [loadIndex_of_opened opened]
      dsimp only
      cases found : Index.contentsOf around settings with
      | error cause => exact .inl ⟨_, rfl, .load opened found, rfl⟩
      | ok contents => exact .inr ⟨settings, contents, rfl, rfl, found, rfl⟩

theorem exists_loadIndex_eq_ok_iff {backend : BackendConfig} :
    (∃ index, loadIndex around config backend = .ok index) ↔
      (backend.contents? around config).isNone = false := by
  rcases loadIndex_cases around config backend with
    ⟨failure, fails, -, none⟩ | ⟨settings, contents, succeeds, -, -, some⟩
  · simp [fails, none]
  · simp [succeeds, some]

theorem fault_of_loadIndex {backend : BackendConfig} {failure : Failure}
    (fails : loadIndex around config backend = .error failure) :
    LoadFault around config backend failure := by
  rcases loadIndex_cases around config backend with
    ⟨other, otherFails, fault, -⟩ | ⟨settings, contents, succeeds, -⟩
  · cases fails.symm.trans otherFails
    exact fault
  · cases fails.symm.trans succeeds

/-! ## All backends -/

/-- The number of backends that cannot be opened or loaded. -/
def failedCount (around : Surroundings) (config : Config) : Nat :=
  config.backends.countP fun backend => (backend.contents? around config).isNone

/-- The number of documents that the other backends refuse. -/
def rejectedCount (around : Surroundings) (config : Config) : Nat :=
  ((config.backends.filterMap (·.contents? around config)).flatMap (·.rejections)).length

/-- The backend that serves some indexes. -/
def served (indexes : List Index) : Backend :=
  .aggregate Backend.aggregateName (indexes.map fun index => .leaf index.source)

theorem serve_eq_map (nonempty : config.backends ≠ []) :
    serve around config =
      (config.backends.mapM (loadIndex around config)).map served := by
  rw [serve]
  cases loads : config.backends.mapM (loadIndex around config) with
  | error failure => rfl
  | ok indexes =>
      have some : indexes ≠ [] := by
        rintro rfl
        have alike := mapM_eq_ok_iff.mp loads
        exact nonempty (List.map_eq_nil_iff.mp alike)
      have members : (indexes.map fun index => Backend.leaf index.source).isEmpty = false := by
        simpa using some
      change (Backend.aggregate? _ _).mapError Failure.plain = _
      rw [Backend.aggregate?, if_neg (by simp [members])]
      rfl

theorem exists_serve_eq_ok_iff (around : Surroundings) (nonempty : config.backends ≠ []) :
    (∃ backend, serve around config = .ok backend) ↔ failedCount around config = 0 := by
  have success : (∃ backend, serve around config = .ok backend) ↔
      ∃ indexes, config.backends.mapM (loadIndex around config) = .ok indexes := by
    rw [serve_eq_map nonempty]
    cases config.backends.mapM (loadIndex around config) <;> simp [Except.map]
  rw [success, exists_mapM_eq_ok_iff, failedCount, List.countP_eq_zero]
  simp only [exists_loadIndex_eq_ok_iff, Bool.not_eq_true]

/-- What is served are the indexes of all backends, each of which was loaded. -/
theorem exists_indexes_of_serve {backend : Backend} (serves : serve around config = .ok backend) :
    ∃ indexes, backend = served indexes ∧
      config.backends.mapM (loadIndex around config) = .ok indexes := by
  have nonempty : config.backends ≠ [] := by
    intro empty
    rw [serve, empty] at serves
    cases serves
  rw [serve_eq_map nonempty] at serves
  cases loads : config.backends.mapM (loadIndex around config) with
  | error failure =>
      rw [loads] at serves
      cases serves
  | ok indexes =>
      rw [loads] at serves
      cases serves
      exact ⟨indexes, rfl, rfl⟩

theorem exists_loaded_of_serve {backend : Backend}
    (serves : serve around config = .ok backend) :
    ∃ indexes, backend = served indexes ∧ ∀ index ∈ indexes, ∃ settings contents,
      Index.contentsOf around settings = .ok contents ∧ index = loaded settings contents := by
  obtain ⟨indexes, same, loads⟩ := exists_indexes_of_serve serves
  refine ⟨indexes, same, ?_⟩
  intro index member
  obtain ⟨origin, -, succeeds⟩ := exists_of_mem_of_mapM loads member
  rcases loadIndex_cases around config origin with
    ⟨failure, fails, -⟩ | ⟨settings, contents, loads, -, found, -⟩
  · cases succeeds.symm.trans fails
  · cases succeeds.symm.trans loads
    exact ⟨settings, contents, found, rfl⟩

theorem served_isComplete {indexes : List Index}
    (each : ∀ index ∈ indexes, ∃ settings contents,
      Index.contentsOf around settings = .ok contents ∧ index = loaded settings contents) :
    (served indexes).summary.cause? = none ∧
      ∀ ids, ((served indexes).details ids).cause? = none := by
  have leaves : (served indexes).leaves = indexes.map (·.source) := by
    rw [served, Backend.leaves_aggregate, List.flatMap_map]
    simp only [Backend.leaves_leaf]
    exact (List.map_eq_flatMap ..).symm
  rw [Backend.summary_cause?_leaves, leaves]
  simp only [Backend.details_cause?_leaves, leaves, List.forall_mem_map]
  constructor
  · intro index member
    obtain ⟨settings, contents, -, rfl⟩ := each index member
    rfl
  · intro ids index member
    obtain ⟨settings, contents, -, rfl⟩ := each index member
    rfl

/-! ## Findings -/

theorem failed_of (backend : BackendConfig) :
    (Finding.of around config backend).failed = (backend.contents? around config).isNone := by
  unfold Finding.of Finding.failed
  rcases loadIndex_cases around config backend with
    ⟨failure, fails, -, none⟩ | ⟨settings, contents, succeeds, -, -, some⟩
  · simp [fails, none, Except.isOk, Except.toBool]
  · simp [succeeds, some, Except.isOk, Except.toBool]

theorem rejections_of (backend : BackendConfig) :
    (Finding.of around config backend).rejections =
      ((backend.contents? around config).map (·.rejections)).getD [] := by
  unfold Finding.of Finding.rejections
  rcases loadIndex_cases around config backend with
    ⟨failure, fails, -, none⟩ | ⟨settings, contents, succeeds, -, -, some⟩
  · rw [fails, none]
    rfl
  · rw [succeeds, some]
    rfl

theorem map_failed_findings (around : Surroundings) (config : Config) :
    (findings around config).map (·.failed) =
      config.backends.map fun backend => (backend.contents? around config).isNone := by
  rw [findings, List.map_map]
  exact List.map_congr_left fun backend _ => failed_of backend

theorem countP_failed_findings (around : Surroundings) (config : Config) :
    (findings around config).countP (·.failed) = failedCount around config := by
  rw [findings, List.countP_map, failedCount]
  exact List.countP_congr fun backend _ => by rw [Function.comp_apply, failed_of]

theorem flatMap_rejections_findings (around : Surroundings) (config : Config) :
    (findings around config).flatMap (·.rejections) =
      (config.backends.filterMap (·.contents? around config)).flatMap (·.rejections) := by
  unfold findings
  induction config.backends with
  | nil => rfl
  | cons backend rest ih =>
      rw [List.map_cons, List.flatMap_cons, ih, rejections_of, List.filterMap_cons]
      cases backend.contents? around config <;> rfl

/-- The check finds fault with a configuration by its two counts. -/
theorem faults?_findings (around : Surroundings) (config : Config) :
    faults? (findings around config) =
      if failedCount around config = 0 ∧ rejectedCount around config = 0 then none
      else some (.faults (failedCount around config) (rejectedCount around config)) := by
  rw [faults?, countP_failed_findings, flatMap_rejections_findings]
  rfl

/-- The first failure ends serving, and it is the first that the check finds. -/
theorem find?_failed_of_serve (nonempty : config.backends ≠ []) {failure : Failure}
    (fails : serve around config = .error failure) :
    ∃ backend, (findings around config).find? (·.failed) = some ⟨backend, .error failure⟩ ∧
      LoadFault around config backend failure := by
  rw [serve_eq_map nonempty] at fails
  cases loads : config.backends.mapM (loadIndex around config) with
  | ok indexes =>
      rw [loads] at fails
      cases fails
  | error other =>
      rw [loads] at fails
      cases fails
      obtain ⟨before, backend, after, shape, earlier, fails⟩ := mapM_eq_error_iff.mp loads
      have finding : Finding.of around config backend = ⟨backend, .error failure⟩ := by
        rw [Finding.of, fails]
      refine ⟨backend, ?_, fault_of_loadIndex fails⟩
      rw [List.find?_eq_some_iff_append]
      refine ⟨rfl, before.map (Finding.of around config), after.map (Finding.of around config),
        by simp [findings, shape, finding], ?_⟩
      intro passed member
      obtain ⟨loadable, held, rfl⟩ := List.mem_map.mp member
      rw [failed_of, exists_loadIndex_eq_ok_iff.mp (earlier loadable held)]
      rfl

/-! ## Runs -/

theorem run_of_discover [Query.Wildcard.Compiler] {explicit : Option Path}
    (found : Config.discover around explicit = .ok config) (task : Task) :
    Invocation.run around ⟨explicit, task⟩ = .ofExcept (task.run around config) := by
  rw [Invocation.run, found]
  rfl

theorem code_summaries (format : Format) (items : List Summary) :
    (Outcome.summaries format items).code = 0 := by
  cases format <;> rfl

theorem code_ids (format : Format) (items : List String) :
    (Outcome.ids format items).code = 0 := by
  cases format <;> rfl

/-- A task that answers from the served backend is answered if there is one. -/
theorem code_eq_zero_iff_exists_serve {answer : Backend → Outcome}
    (fine : ∀ backend, (answer backend).code = 0) :
    (Outcome.ofExcept ((serve around config).map answer)).code = 0 ↔
      ∃ backend, serve around config = .ok backend := by
  cases serve around config with
  | error failure => simp [Except.map, Outcome.ofExcept, Outcome.ofFailure]
  | ok backend => simp [Except.map, Outcome.ofExcept, fine]

theorem check_of_clean (config : Config) {findings : List Finding}
    (clean : faults? findings = none) : (Outcome.check config findings).code = 0 := by
  simp only [Outcome.check, clean]

theorem check_of_faulty (config : Config) {findings : List Finding} {failure : Failure}
    (faulty : faults? findings = some failure) :
    (Outcome.check config findings).code = 1 ∧
      (Outcome.check config findings).messages = failure.report := by
  simp only [Outcome.check, faulty, Outcome.ofFailure, and_self]

/-- The last message of a check that does not pass. -/
def verdict (failed rejected : Nat) : String :=
  "Error: " ++ s!"{failed} backend(s) failed to load, {rejected} document(s) rejected" ++ "\n"

/-- A check passes if both of its counts are zero, and else ends with them. -/
theorem check_of_counts (config : Config) {findings : List Finding} {failed rejected : Nat}
    (counts : faults? findings =
      if failed = 0 ∧ rejected = 0 then none else some (.faults failed rejected)) :
    ((Outcome.check config findings).code = 0 ↔ failed = 0 ∧ rejected = 0) ∧
    ((Outcome.check config findings).code ≠ 0 → (Outcome.check config findings).code = 1 ∧
      (Outcome.check config findings).messages = verdict failed rejected) := by
  by_cases clean : failed = 0 ∧ rejected = 0
  · rw [if_pos clean] at counts
    have passed := check_of_clean config counts
    simp [passed, clean]
  · rw [if_neg clean] at counts
    obtain ⟨code, messages⟩ := check_of_faulty config counts
    rw [code, messages, Failure.report_of_cause?_eq_none rfl]
    exact ⟨⟨fun passed => absurd passed Nat.one_ne_zero, fun both => absurd both clean⟩,
      fun _ => ⟨rfl, rfl⟩⟩

/-- The check of the configuration in a file and the tasks that serve it agree on which
backends can be loaded. -/
structure CheckAgrees [Query.Wildcard.Compiler] (around : Surroundings) (path : Path)
    (config : Config) : Prop where
  /-- The backends are served together if none of them fails. -/
  served : (∃ backend, serve around config = .ok backend) ↔ failedCount around config = 0
  /-- What is served answers every request completely. -/
  complete : ∀ backend, serve around config = .ok backend →
    backend.summary.cause? = none ∧ ∀ ids, (backend.details ids).cause? = none
  listsSummaries : ∀ question query format, question.read = .ok query →
    ((Invocation.run around ⟨some path, .summary question format⟩).code = 0 ↔
      ∃ backend, serve around config = .ok backend)
  listsIds : ∀ question query format, question.read = .ok query →
    ((Invocation.run around ⟨some path, .ids question format⟩).code = 0 ↔
      ∃ backend, serve around config = .ok backend)
  passed : (Invocation.run around ⟨some path, .validate⟩).code = 0 ↔
    (∃ backend, serve around config = .ok backend) ∧ rejectedCount around config = 0
  /-- Where the check does not pass, it ends with its two counts. -/
  counted : (Invocation.run around ⟨some path, .validate⟩).code ≠ 0 →
    (Invocation.run around ⟨some path, .validate⟩).code = 1 ∧
    (Invocation.run around ⟨some path, .validate⟩).messages =
      verdict (failedCount around config) (rejectedCount around config)
  /-- The check finds as failed the backends that cannot be opened or loaded. -/
  marked : (findings around config).map (·.failed) =
    config.backends.map fun backend => (backend.contents? around config).isNone
  /-- The failure of serving is that of the first backend that the check finds as failed. -/
  first : ∀ failure, serve around config = .error failure →
    ∃ backend, (findings around config).find? (·.failed) = some ⟨backend, .error failure⟩ ∧
      LoadFault around config backend failure

/-- The check of a configuration that could be read agrees with serving it. -/
theorem checkAgrees_of_loadFrom [Query.Wildcard.Compiler] {path : Path}
    (found : Config.loadFrom around path = .ok config) : CheckAgrees around path config := by
  have discovered : Config.discover around (some path) = .ok config := found
  have nonempty := Config.backends_ne_nil_of_loadFrom found
  have served := exists_serve_eq_ok_iff around nonempty
  obtain ⟨passed, counted⟩ := check_of_counts config (faults?_findings around config)
  have validate : Invocation.run around ⟨some path, .validate⟩ =
      Outcome.check config (findings around config) := run_of_discover discovered .validate
  exact {
    served := served
    complete := by
      intro backend serves
      obtain ⟨indexes, rfl, each⟩ := exists_loaded_of_serve serves
      exact served_isComplete each
    listsSummaries := by
      intro question query format read
      rw [run_of_discover discovered, Task.run, read]
      exact code_eq_zero_iff_exists_serve fun backend => code_summaries _ _
    listsIds := by
      intro question query format read
      rw [run_of_discover discovered, Task.run, read]
      exact code_eq_zero_iff_exists_serve fun backend => code_ids _ _
    passed := by rw [validate, served, passed]
    counted := by
      rw [validate]
      exact counted
    marked := map_failed_findings around config
    first := fun failure => find?_failed_of_serve nonempty }

/-! ## Two backends, of which one refuses a document and one has no directory -/

def pairText : String :=
  lines ["[[entityTypes]]", "name = 'recipe'",
    "[[backends]]", "type = 'localfs'", "rootDir = 'team'",
    "entityLocations.recipe = '*.rcp'",
    "[[backends]]", "type = 'localfs'", "rootDir = 'personal'",
    "entityLocations.recipe = '*.rcp'"]

def pairConfig : Config where
  types := [{ name := "recipe" }]
  backends := ["team", "personal"].map fun name =>
    { rootDirectory := name, locations := [("recipe", "*.rcp")] }
  source := some ⟨"/config.toml"⟩

/-- The files around the configuration of two backends. -/
def pairAround (directories : List (String × FileTree)) : Surroundings where
  files := .directory (("config.toml", .file (.text pairText) Moment.epoch) :: directories)
  workingDirectory := ⟨"/"⟩
  user? := none

theorem parse?_pairText : Config.parse? ⟨"/config.toml"⟩ pairText =
    some { pairConfig with source := none } := by
  decide +kernel

theorem loadFrom_pairConfig (directories : List (String × FileTree)) :
    Config.loadFrom (pairAround directories) ⟨"/config.toml"⟩ = .ok pairConfig := by
  have read : (pairAround directories).readFile ⟨"/config.toml"⟩ =
      .ok (pairText, Moment.epoch) := rfl
  exact Config.loadFrom_of_parse read parse?_pairText rfl

def brokenAround : Surroundings :=
  pairAround [("team", .directory [("broken.rcp", .file (.text "no front matter") Moment.epoch)])]

section

attribute [local instance] Query.Wildcard.Compiler.bounded

theorem checkAgrees_of_loadFrom_broken :
    Config.loadFrom brokenAround ⟨"/config.toml"⟩ = .ok pairConfig ∧
      (¬∃ backend, serve brokenAround pairConfig = .ok backend) ∧
      (Invocation.run brokenAround ⟨some ⟨"/config.toml"⟩, .validate⟩).messages =
        "Error: 1 backend(s) failed to load, 1 document(s) rejected\n" := by
  have found : Config.loadFrom brokenAround ⟨"/config.toml"⟩ = .ok pairConfig :=
    loadFrom_pairConfig _
  have agrees := checkAgrees_of_loadFrom found
  have failed : failedCount brokenAround pairConfig = 1 := by decide +kernel
  have rejected : rejectedCount brokenAround pairConfig = 1 := by decide +kernel
  have unserved : ¬∃ backend, serve brokenAround pairConfig = .ok backend := by
    rw [agrees.served, failed]
    decide
  refine ⟨found, unserved, ?_⟩
  have counted := agrees.counted fun passed => unserved (agrees.passed.mp passed).1
  rw [counted.2, failed, rejected]
  rfl

end

end Command

end Guidebook
