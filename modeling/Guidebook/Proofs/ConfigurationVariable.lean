import Guidebook.Proofs.NearestConfiguration
import Guidebook.Proofs.QueryTasks

/-!
# The variable that names a configuration

The variable is read twice.  A command line presets its option with the value, so that the
option counts as given, and a search for a configuration that is given none looks at the value
again.  The two readings come to the same file for every value but the empty one: a search
takes that for no value at all, and the option does not admit it.
-/

namespace Guidebook.Command

variable {around : Surroundings} {preset : Option String} {words : List String}

/-! ## The two levels of a command line -/

/-- A command line that can be read has given something on each level, and the task is told by
the two.  The preset of the configuration has no part in it. -/
inductive Reads (words : List String) : (outer inner : Given) → (task : Task) → Prop where
  | levels {outer inner : Given} {verb : Verb} {task : Task} {later : List String}
      {rest : Option (Verb × List String)}
      (before : readWords .outer {} none words = .ok (outer, some (verb, later)))
      (after : readWords (.inner verb) {} none later = .ok (inner, rest))
      (asks : Task.of verb inner = .ok task) : Reads words outer inner task

variable {outer inner : Given} {task : Task}

theorem Reads.parse_eq (reads : Reads words outer inner task) (preset : Option String) :
    Invocation.parse preset words = (configOf preset outer inner).map (⟨·, task⟩) := by
  cases reads with
  | levels before after asks =>
      simp only [Invocation.parse, before, after, asks, bind, Except.bind]
      cases configOf preset outer inner <;> rfl

theorem exists_reads_of_parse {invocation : Invocation}
    (parsed : Invocation.parse preset words = .ok invocation) :
    ∃ outer inner, Reads words outer inner invocation.task := by
  obtain ⟨⟨outer, rest⟩, before, parsed⟩ := bind_eq_ok_iff.mp parsed
  cases rest with
  | none => cases parsed
  | some rest =>
      obtain ⟨⟨inner, others⟩, after, parsed⟩ := bind_eq_ok_iff.mp parsed
      obtain ⟨task, asks, parsed⟩ := bind_eq_ok_iff.mp parsed
      obtain ⟨named, -, same⟩ := bind_eq_ok_iff.mp parsed
      cases same
      exact ⟨outer, inner, .levels before after asks⟩

/-! ## The file that is named -/

theorem configOf_none (outer inner : Given) : configOf none outer inner =
    .ok (((inner.value? .config).or (outer.value? .config)).map Path.mk) := by
  simp [configOf]

/-- Where no level gives the option, a preset takes its place if the option admits it. -/
theorem configOf_of_unnamed (unnamed : configOf none outer inner = .ok none)
    (preset : Option String) : configOf preset outer inner =
      if preset = some "" then .error .misuse else .ok (preset.map Path.mk) := by
  simp only [configOf_none, Except.ok.injEq, Option.map_eq_none_iff, Option.or_eq_none_iff]
    at unnamed
  rw [configOf, Given.has, unnamed.1, unnamed.2]
  cases preset with
  | none => rfl
  | some text => by_cases blank : text = "" <;> simp [blank, Key.admits]

/-- A command line that names no file is read with every preset but the empty one. -/
theorem parse_of_unnamed (unnamed : Invocation.parse none words = .ok ⟨none, task⟩)
    (preset : Option String) : Invocation.parse preset words =
      if preset = some "" then .error .misuse else .ok ⟨preset.map Path.mk, task⟩ := by
  obtain ⟨outer, inner, reads⟩ := exists_reads_of_parse unnamed
  have left : configOf none outer inner = .ok none := by
    rw [reads.parse_eq] at unnamed
    cases named : configOf none outer inner with
    | error stop => simp [named, Except.map] at unnamed
    | ok explicit => simpa [named, Except.map] using unnamed
  rw [reads.parse_eq, configOf_of_unnamed left]
  split <;> rfl

/-! ## The two readings -/

/-- A search takes every value of the variable but the empty one for the name of a file. -/
theorem discover_variable (filled : around.variableValue? Config.variableName ≠ some "") :
    Config.discover around ((around.variableValue? Config.variableName).map Path.mk) =
      Config.discover around none := by
  cases given : around.variableValue? Config.variableName with
  | none => rfl
  | some text =>
      have nonempty : text ≠ "" := by
        intro blank
        exact filled (by rw [given, blank])
      have finds : Config.Finds around none [] (some ⟨text⟩) := .environment nonempty given
      rw [finds.discover_eq]
      rfl

/-- A command line that names no file of a configuration is carried out with the configuration
that a search finds, or fails with the error of the search, unless the variable is set to the
empty value: then it cannot be read, whatever a search would find. -/
theorem run_of_unnamed [Query.Wildcard.Compiler]
    (unnamed : Invocation.parse none words = .ok ⟨none, task⟩) (around : Surroundings) :
    ((∃ explicit, Invocation.parse (around.variableValue? Config.variableName) words =
          .ok ⟨explicit, task⟩ ∧
        Config.discover around explicit = Config.discover around none) ↔
      around.variableValue? Config.variableName ≠ some "") ∧
    (around.variableValue? Config.variableName ≠ some "" →
      run around words =
        .ofExcept ((Config.discover around none).mapError .plain >>= task.run around)) ∧
    (around.variableValue? Config.variableName = some "" →
      run around words = .ofStop .misuse) := by
  have parsed := parse_of_unnamed unnamed (around.variableValue? Config.variableName)
  refine ⟨⟨?_, ?_⟩, ?_, ?_⟩
  · rintro ⟨explicit, accepted, -⟩ blank
    rw [parsed, if_pos blank] at accepted
    cases accepted
  · intro filled
    rw [if_neg filled] at parsed
    exact ⟨_, parsed, discover_variable filled⟩
  · intro filled
    rw [if_neg filled] at parsed
    rw [run_of_parse rfl parsed, Invocation.run, discover_variable filled]
  · intro blank
    rw [if_pos blank] at parsed
    rw [run, parsed]

/-! ## A project with a configuration in its place -/

/-- A project with a configuration and the documents of its two backends, and a value of the
variable. -/
def projectAround (value : Option String) : Surroundings where
  files := .directory [(".agent", .directory [("service", .directory
    (("config.toml", .file (.text pairText) Moment.epoch) :: releaseDirectories))])]
  workingDirectory := ⟨"/"⟩
  user? := none
  environment := (value.map fun text => (Config.variableName, text)).toList

theorem variableValue?_projectAround (value : Option String) :
    (projectAround value).variableValue? Config.variableName = value := by
  cases value with
  | none => rfl
  | some text => exact List.lookup_cons_self

theorem parse_summary : Invocation.parse none ["summary"] = .ok ⟨none, .summary {} .text⟩ := by
  rfl

/-- The configuration of the project, as it is found in its place. -/
def projectConfig : Config := { pairConfig with source := some ⟨"/.agent/service/config.toml"⟩ }

theorem loadFrom_projectConfig (value : Option String) :
    Config.loadFrom (projectAround value) ⟨"/.agent/service/config.toml"⟩ = .ok projectConfig := by
  have read : (projectAround value).readFile ⟨"/.agent/service/config.toml"⟩ =
      .ok (pairText, Moment.epoch) := rfl
  have parsed : Config.parse? ⟨"/.agent/service/config.toml"⟩ pairText =
      some { pairConfig with source := none } := parse?_pairText
  rw [Config.loadFrom_of_parse read parsed rfl]
  rfl

theorem discover_projectAround {value : Option String}
    (unnamed : Config.Unnamed (projectAround value)) :
    Config.discover (projectAround value) none = .ok projectConfig := by
  have order : Config.places (projectAround value) =
      [⟨"/.agent/service/config.yaml"⟩] ++ [⟨"/.agent/service/config.toml"⟩] := by
    have alone : Config.projects (projectAround value) = [⟨"/"⟩] := by
      change (List.range 4).filterMap (Path.above? · ⟨"/"⟩) = _
      rfl
    rw [Config.places, alone]
    rfl
  have passed : ∀ other ∈ [(⟨"/.agent/service/config.yaml"⟩ : Path)],
      (projectAround value).isFile other = false := by
    intro other held
    rw [List.mem_singleton.mp held]
    rfl
  rw [(Config.Finds.nearest unnamed order rfl passed).discover_eq]
  exact loadFrom_projectConfig value

section

attribute [local instance] Query.Wildcard.Compiler.bounded

theorem run_of_unnamed_project :
    Invocation.parse none ["summary"] = .ok ⟨none, .summary {} .text⟩ ∧
    run (projectAround (some "/.agent/service/config.toml")) ["summary"] =
      .ofExcept ((Task.summary {} .text).run
        (projectAround (some "/.agent/service/config.toml")) projectConfig) ∧
    run (projectAround (some "")) ["summary"] = .ofStop .misuse := by
  have filled : (projectAround (some "/.agent/service/config.toml")).variableValue?
      Config.variableName ≠ some "" := by
    rw [variableValue?_projectAround]
    simp
  have found : Config.discover (projectAround (some "/.agent/service/config.toml")) none =
      .ok projectConfig := by
    rw [← discover_variable filled, variableValue?_projectAround, Option.map_some, Config.discover]
    exact loadFrom_projectConfig _
  refine ⟨parse_summary, ?_, ?_⟩
  · rw [(run_of_unnamed parse_summary _).2.1 filled]
    exact run_of_discover found _
  · exact (run_of_unnamed parse_summary _).2.2 (variableValue?_projectAround _)

/-- The empty value of the variable names no file, and a search with it finds the configuration
of the project as if the variable were not set.  But the command line is refused. -/
theorem empty_variable_refused :
    Config.discover (projectAround (some "")) none = .ok projectConfig ∧
    Config.discover (projectAround none) none = .ok projectConfig ∧
    run (projectAround none) ["summary"] =
      { output := "notes                        recipe\nrelease                      recipe\n"
        messages := "\n2 documents\n" } ∧
    run (projectAround (some "")) ["summary"] = { code := 2, messages := usage } := by
  have found : Config.discover (projectAround none) none = .ok projectConfig := by
    apply discover_projectAround
    intro text named
    cases named
  refine ⟨?_, found, ?_, rfl⟩
  · apply discover_projectAround
    intro text named
    cases named
    rfl
  · rw [run_of_parse (variableValue?_projectAround none) parse_summary, run_of_discover found]
    decide +kernel

end

end Guidebook.Command
