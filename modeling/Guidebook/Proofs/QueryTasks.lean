import Guidebook.Proofs.Agreement
import Guidebook.Proofs.Deliveries
import Guidebook.Proofs.Loadability

/-!
# Tasks with a query

Summaries, ids and documents are chosen by a query in three ways: the summaries are
filtered, their ids are selected, and the documents are requested under the selected ids
and put in the order of the request.  On backends that are loaded the three come to the
same, as long as there is a query.  A blank text has none; then the documents are refused,
though the other two tasks list everything.
-/

namespace Guidebook.Command

open Backend

variable {around : Surroundings} {config : Config} {backend : Backend}

/-! ## What is served -/

theorem agrees_loaded {settings : IndexSettings} {contents : IndexContents}
    (found : Index.contentsOf around settings = .ok contents) :
    Agrees (.leaf (loaded settings contents).source) := by
  have unclaimed : (Index.fresh settings).claimed = false := rfl
  have load : ((Session.start around settings).run [.load]).index = loaded settings contents :=
    congrArg Prod.snd (Index.load_of_ok unclaimed found)
  rw [← load]
  exact agrees_index around settings [.load]

theorem agrees_of_serve (serves : serve around config = .ok backend) : Agrees backend := by
  obtain ⟨indexes, rfl, each⟩ := exists_loaded_of_serve serves
  refine agrees_aggregate _ ?_
  intro member held
  obtain ⟨index, listed, rfl⟩ := List.mem_map.mp held
  obtain ⟨settings, contents, found, rfl⟩ := each index listed
  exact agrees_loaded found

/-! ## Documents in the order of a request -/

/-- The documents under the ids of some of the summaries are delivered in the order of these
summaries, and none is missing. -/
theorem deliver_ids (agrees : Agrees backend) {chosen : List Summary}
    (among : chosen.Sublist backend.summary.items) :
    (deliver backend (chosen.map (·.id))).found.map (·.summary) = chosen ∧
      (deliver backend (chosen.map (·.id))).missing = [] := by
  have distinct : (chosen.map (·.id)).Nodup := agrees.distinct.sublist (among.map _)
  have found (summary : Summary) (member : summary ∈ chosen) :
      (last? (backend.details (chosen.map (·.id))).items summary.id).map (·.summary) =
        some summary := by
    have served := agrees.found (chosen.map (·.id)) summary.id (List.mem_map_of_mem member)
    rw [find?_eq_some_of_mem agrees.distinct (among.subset member)] at served
    obtain ⟨entity, first, same⟩ := Option.map_eq_some_iff.mp served
    have id : entity.id = summary.id := by simpa using List.find?_some first
    -- Of several entities under the id the last is delivered, and its summary is listed too.
    obtain ⟨last, held, search⟩ := exists_last?_of_mem (List.mem_of_find?_eq_some first)
    have lastId : last.summary.id = summary.id := (last?_id search).trans id
    rw [← id, search, Option.map_some, eq_of_key_eq agrees.distinct (agrees.listed _ last held)
      (among.subset member) lastId]
  rw [deliver, ofEntities_eq]
  constructor
  · have once : keepFirst id [] (chosen.map (·.id)) = chosen.map (·.id) :=
      keepFirst_of_nodup (by simpa using distinct)
    simp only [once, List.map_filterMap, List.filterMap_map, Function.comp_apply]
    rw [List.filterMap_congr found]
    exact List.filterMap_some
  · rw [List.filter_eq_nil_iff]
    intro id requested
    obtain ⟨summary, member, rfl⟩ := List.mem_map.mp requested
    obtain ⟨entity, there, -⟩ := Option.map_eq_some_iff.mp (found summary member)
    simp [there]

/-! ## The three tasks -/

theorem read_of_parse [Query.Wildcard.Compiler] {question : Question} {text : String}
    {query : Option Query.Node} (given : question.text = some text)
    (accepted : Query.parse question.mode text = .ok query) : question.read = .ok query := by
  rw [Question.read, given]
  simp only [accepted]
  rfl

theorem delivery_json {delivery : Delivery} (complete : delivery.missing = []) :
    Outcome.delivery .json delivery = .json (delivery.found.map entityRecord) := by
  rw [Outcome.delivery, complete]
  rfl

/-- Where all backends are served, the summaries that a query accepts are listed as they
are, and their ids.  If there is a query in the text, the documents under these ids are
written in the same order, and none is missing; a text without a query asks for no
documents, although it accepts all summaries. -/
theorem query_tasks_agree [Query.Wildcard.Compiler] {explicit : Option Path}
    (found : Config.discover around explicit = .ok config)
    (serves : serve around config = .ok backend)
    {question : Question} {text : String} {query : Option Query.Node}
    (given : question.text = some text)
    (accepted : Query.parse question.mode text = .ok query) :
    ∃ chosen : List Summary, chosen = backend.summary.items.filter (Query.accepts query) ∧
      Invocation.run around ⟨explicit, .summary question .json⟩ =
        .json (chosen.map (·.toJson)) ∧
      Invocation.run around ⟨explicit, .ids question .json⟩ =
        .json (chosen.map fun summary => .str summary.id) ∧
      (query ≠ none → ∃ entities : List Entity, entities.map (·.summary) = chosen ∧
        Invocation.run around ⟨explicit, .details [] question .json⟩ =
          .json (entities.map entityRecord)) ∧
      (query = none → Invocation.run around ⟨explicit, .details [] question .json⟩ =
        .ofFailure "" .nothingRequested) := by
  have read := read_of_parse given accepted
  have chosen : chosenSummaries backend query =
      backend.summary.items.filter (Query.accepts query) := Fetch.items_filter _ _
  refine ⟨_, rfl, ?_, ?_, ?_, ?_⟩
  · rw [run_of_discover found, Task.run, read, serves, ← chosen]
    rfl
  · rw [run_of_discover found, Task.run, read, serves]
    change Outcome.json (((backend.summary.items.filter (Query.accepts query)).map
      (·.id)).map Json.str) = _
    rw [List.map_map]
    rfl
  · intro some
    obtain ⟨node, rfl⟩ := Option.ne_none_iff_exists'.mp some
    have among : (backend.summary.items.filter (Query.accepts node)).Sublist
        backend.summary.items := List.filter_sublist
    obtain ⟨summaries, complete⟩ := deliver_ids (agrees_of_serve serves) among
    refine ⟨_, summaries, ?_⟩
    rw [run_of_discover found, Task.run, read, serves]
    exact delivery_json complete
  · rintro rfl
    rw [run_of_discover found, Task.run, read]
    rfl

/-! ## Two backends with a document each -/

def releaseDirectories : List (String × FileTree) :=
  [("personal", .directory [("a.rcp", .file (.text "---\nid: release\n---\n") Moment.epoch)]),
    ("team", .directory [("b.rcp", .file (.text "---\nid: notes\n---\n") Moment.epoch)])]

def releaseAround : Surroundings := pairAround releaseDirectories

theorem discover_release :
    Config.discover releaseAround (some ⟨"/config.toml"⟩) = .ok pairConfig := by
  rw [Config.discover]
  exact loadFrom_pairConfig releaseDirectories

theorem run_of_parse [Query.Wildcard.Compiler] {preset : Option String} {words : List String}
    {invocation : Invocation}
    (given : around.variableValue? Config.variableName = preset)
    (parsed : Invocation.parse preset words = .ok invocation) :
    run around words = invocation.run around := by
  rw [run, given, parsed]

section

attribute [local instance] Query.Wildcard.Compiler.bounded

theorem query_tasks_agree_release :
    ∃ backend node, serve releaseAround pairConfig = .ok backend ∧
      Query.parse .lenient "type:recipe" = .ok (some node) ∧
      ∃ entities : List Entity,
        entities.map (·.summary) = backend.summary.items.filter (Query.accepts (some node)) ∧
        Invocation.run releaseAround
            ⟨some ⟨"/config.toml"⟩, .details [] { text := some "type:recipe" } .json⟩ =
          .json (entities.map entityRecord) := by
  have loadable : failedCount releaseAround pairConfig = 0 := by decide +kernel
  obtain ⟨backend, serves⟩ := (exists_serve_eq_ok_iff releaseAround (by decide)).mpr loadable
  have readable : (Query.parse .lenient "type:recipe").toOption.any (·.isSome) = true := by
    decide +kernel
  cases accepted : Query.parse .lenient "type:recipe" with
  | error error => simp [accepted, Except.toOption] at readable
  | ok query =>
      obtain ⟨node, rfl⟩ : ∃ node, query = some node := by
        simpa [accepted, Except.toOption, Option.isSome_iff_exists] using readable
      have given : ({ text := some "type:recipe" } : Question).text = some "type:recipe" := rfl
      obtain ⟨_, rfl, -, -, details, -⟩ :=
        query_tasks_agree discover_release serves given accepted
      exact ⟨backend, node, serves, rfl, details (Option.some_ne_none node)⟩

/-- A blank text for a query lists all ids, but is refused as if it were not given where
documents are asked for. -/
theorem details_of_blank_refused :
    run releaseAround ["-c", "/config.toml", "ids", "--filter", " ", "--output", "json"] =
      { output := "[\n  \"notes\",\n  \"release\"\n]\n" } ∧
    run releaseAround ["-c", "/config.toml", "details", "--filter", " ", "--output", "json"] =
      { code := 1, messages := "Error: provide one or more ids, or --filter\n" } := by
  have unset : releaseAround.variableValue? Config.variableName = none := rfl
  have ids : Invocation.parse none
      ["-c", "/config.toml", "ids", "--filter", " ", "--output", "json"] =
        .ok ⟨some ⟨"/config.toml"⟩, .ids { text := some " " } .json⟩ := by rfl
  have details : Invocation.parse none
      ["-c", "/config.toml", "details", "--filter", " ", "--output", "json"] =
        .ok ⟨some ⟨"/config.toml"⟩, .details [] { text := some " " } .json⟩ := by rfl
  rw [run_of_parse unset ids, run_of_parse unset details, run_of_discover discover_release,
    run_of_discover discover_release]
  constructor
  · decide +kernel
  · decide +kernel

end

end Guidebook.Command
