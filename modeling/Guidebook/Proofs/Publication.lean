import Guidebook.Index.Basic
import Guidebook.Proofs.FirstOfEach
import Mathlib.Data.List.Nodup

/-!
# What a load publishes

A load takes over the outcomes of its candidates one by one and builds, side by
side, the table of the documents, the table of their paths, the list of summaries
and the list of refusals.  This module says what the four hold after any outcomes,
and derives that a load accounts for each candidate once, in the order of
discovery.
-/

namespace Guidebook.Index

open Backend (Tracks)

/-- The documents among some outcomes, each with the number of its candidate. -/
def accepted (outcomes : List (Nat × Outcome)) : List (Nat × Entity) :=
  outcomes.filterMap fun numbered => numbered.2.toOption.map fun entity => (numbered.1, entity)

/-- The refusals among some outcomes, each recorded with the path and the type of its
candidate. -/
def refused (settings : IndexSettings) (candidates : List Candidate)
    (outcomes : List (Nat × Outcome)) : List Rejection :=
  outcomes.filterMap fun numbered =>
    let candidate := candidates.getD numbered.1 default
    match numbered.2 with
    | .ok _ => none
    | .error error =>
        some (Rejection.of candidate.path
          (settings.types.getD candidate.typeIndex default).name error)

theorem mem_accepted {number : Nat} {entity : Entity} {outcomes : List (Nat × Outcome)} :
    (number, entity) ∈ accepted outcomes ↔ (number, .ok entity) ∈ outcomes := by
  simp only [accepted, List.mem_filterMap, Option.map_eq_some_iff, Prod.exists, Prod.mk.injEq]
  constructor
  · rintro ⟨_, outcome, member, held, read, rfl, rfl⟩
    cases outcome with
    | ok entity =>
        cases read
        exact member
    | error error => cases read
  · intro member
    exact ⟨number, .ok entity, member, entity, rfl, rfl, rfl⟩

/-! ## The loop over the outcomes -/

namespace Intake

variable {settings : IndexSettings} {candidates : List Candidate}

/-- An intake that has taken over some outcomes: its collections account for the
documents and the refusals among them, and no two documents have one id. -/
structure Follows (settings : IndexSettings) (candidates : List Candidate)
    (taken : List (Nat × Outcome)) (intake : Intake) : Prop where
  summaries : intake.summaries = (accepted taken).map fun document => document.2.summary
  distinct : ((accepted taken).map fun document => document.2.id).Nodup
  entities : Tracks (fun document => document.2.id) (·.2) (accepted taken) intake.entities
  owners : Tracks (fun document => document.2.id)
    (fun document => (candidates.getD document.1 default).path) (accepted taken) intake.owners
  keys : (intake.entities.map (·.1)).Perm (intake.summaries.map (·.id))
  rejections : intake.rejections = refused settings candidates taken

theorem follows_nil : Follows settings candidates [] {} where
  summaries := rfl
  distinct := .nil
  entities := .nil
  owners := .nil
  keys := .refl _
  rejections := rfl

/-- A document is taken over only if its id is new. -/
theorem Follows.accept {taken : List (Nat × Outcome)} {intake next : Intake}
    (follows : intake.Follows settings candidates taken) {number : Nat} {entity : Entity}
    (accepts : intake.accept (candidates.getD number default).path entity = .ok next) :
    next.Follows settings candidates (taken ++ [(number, .ok entity)]) := by
  have grown : accepted (taken ++ [(number, .ok entity)]) =
      accepted taken ++ [(number, entity)] := by
    simp [accepted, Except.toOption]
  -- only the owners are looked up; both tables track the same documents, so the id is new
  -- in the other one too
  have unowned : intake.owners.lookup entity.id = none := by
    unfold Intake.accept at accepts
    split at accepts
    · cases accepts
    · assumption
  have fresh := follows.owners.fresh unowned
  have unlisted : intake.entities.lookup entity.id = none := by
    rw [← Option.not_isSome_iff_eq_none, follows.entities.isSome_iff]
    exact fresh
  simp only [Intake.accept, unowned, Except.ok.injEq] at accepts
  subst accepts
  exact {
    summaries := by simp [grown, follows.summaries]
    distinct := by
      rw [grown, List.map_append, List.nodup_append]
      refine ⟨follows.distinct, by simp, ?_⟩
      intro id seen other same
      simp only [List.map_cons, List.map_nil, List.mem_singleton] at same
      subst same
      exact fun equal => fresh (equal ▸ seen)
    entities := by
      rw [grown]
      exact follows.entities.enter (number, entity) unlisted
    owners := by
      rw [grown]
      exact follows.owners.enter (number, entity) unowned
    keys := by
      have entered := (Keyed.insert_perm entity unlisted).map (·.1)
      refine entered.trans ?_
      simp only [List.map_cons, List.map_append, List.map_nil, Entity.summary_id]
      exact (follows.keys.cons entity.id).trans
        (List.perm_append_comm : ([entity.id] ++ _).Perm _)
    rejections := by simp [refused, follows.rejections] }

/-- A refusal is recorded and nothing else changes. -/
theorem Follows.refuse {taken : List (Nat × Outcome)} {intake : Intake}
    (follows : intake.Follows settings candidates taken) (number : Nat)
    (error : DocumentError) :
    (intake.refuse (candidates.getD number default).path
      (settings.types.getD (candidates.getD number default).typeIndex default).name
      error).Follows settings candidates (taken ++ [(number, .error error)]) := by
  have same : accepted (taken ++ [(number, .error error)]) = accepted taken := by
    simp [accepted, Except.toOption]
  exact {
    summaries := by rw [same]; exact follows.summaries
    distinct := by rw [same]; exact follows.distinct
    entities := by rw [same]; exact follows.entities
    owners := by rw [same]; exact follows.owners
    keys := follows.keys
    rejections := by simp [refused, Intake.refuse, follows.rejections] }

theorem Follows.take {taken : List (Nat × Outcome)} {intake next : Intake}
    (follows : intake.Follows settings candidates taken) {numbered : Nat × Outcome}
    (takes : intake.take settings candidates numbered = .ok next) :
    next.Follows settings candidates (taken ++ [numbered]) := by
  obtain ⟨number, outcome⟩ := numbered
  cases outcome with
  | ok entity => exact follows.accept takes
  | error error =>
      cases takes
      exact follows.refuse number error

theorem Follows.foldlM_take {taken outcomes : List (Nat × Outcome)} {intake final : Intake}
    (follows : intake.Follows settings candidates taken)
    (takes : outcomes.foldlM (Intake.take settings candidates) intake = .ok final) :
    final.Follows settings candidates (taken ++ outcomes) := by
  induction outcomes generalizing taken intake with
  | nil =>
      cases takes
      simpa using follows
  | cons numbered rest ih =>
      rw [List.foldlM_cons] at takes
      obtain ⟨next, step, takes⟩ := bind_eq_ok_iff.mp takes
      simpa using ih (follows.take step) takes

/-- A document is not taken over because one before has its id. -/
theorem Follows.exists_of_accept_error {taken : List (Nat × Outcome)} {intake : Intake}
    (follows : intake.Follows settings candidates taken) {path : Path} {entity : Entity}
    {error : Error} (clashes : intake.accept path entity = .error error) :
    ∃ number earlier, (number, .ok earlier) ∈ taken ∧ earlier.id = entity.id ∧
      error = .duplicateId entity.id (candidates.getD number default).path.text path.text := by
  unfold Intake.accept at clashes
  split at clashes
  · next first owned =>
      cases clashes
      rw [follows.owners entity.id, Option.map_eq_some_iff] at owned
      obtain ⟨⟨number, earlier⟩, found, rfl⟩ := owned
      exact ⟨number, earlier, mem_accepted.mp (List.mem_of_find?_eq_some found),
        by simpa using List.find?_some found, rfl⟩
  · cases clashes

/-- Taking over outcomes ends with an error at one of the documents among them, and only
what comes before it was taken over. -/
theorem Follows.exists_of_foldlM_take_error {taken outcomes : List (Nat × Outcome)}
    {intake : Intake} {error : Error} (follows : intake.Follows settings candidates taken)
    (fails : outcomes.foldlM (Intake.take settings candidates) intake = .error error) :
    ∃ before number entity after, outcomes = before ++ (number, .ok entity) :: after ∧
      ∃ stopped : Intake, stopped.Follows settings candidates (taken ++ before) ∧
        stopped.accept (candidates.getD number default).path entity = .error error := by
  induction outcomes generalizing taken intake with
  | nil => cases fails
  | cons numbered rest ih =>
      rw [List.foldlM_cons] at fails
      cases step : intake.take settings candidates numbered with
      | ok next =>
          rw [step] at fails
          obtain ⟨before, number, entity, after, rfl, stopped, reached, clashes⟩ :=
            ih (follows.take step) fails
          exact ⟨numbered :: before, number, entity, after, rfl, stopped,
            by simpa using reached, clashes⟩
      | error fault =>
          rw [step] at fails
          cases fails
          obtain ⟨number, outcome⟩ := numbered
          cases outcome with
          | ok entity => exact ⟨[], number, entity, rest, rfl, intake, by simpa using follows, step⟩
          | error fault => cases step

end Intake

/-! ## Types of candidates -/

/-- The candidates of some types are those of the first and then those of the rest. -/
theorem candidatesFrom_cons {around : Surroundings} {root : Path} {index : Nat}
    {seen : List Path} {type : DocumentType} {rest : List DocumentType}
    {candidates : List Candidate}
    (found : Discovery.candidatesFrom around root index seen (type :: rest) = .ok candidates) :
    ∃ files later, Discovery.filesOf around root type = .ok files ∧
      Discovery.candidatesFrom around root (index + 1)
        (Discovery.distinct seen files ++ seen) rest = .ok later ∧
      candidates = (Discovery.distinct seen files).map (⟨·, index⟩) ++ later := by
  rw [Discovery.candidatesFrom] at found
  obtain ⟨files, expanded, found⟩ := bind_eq_ok_iff.mp found
  obtain ⟨later, laterFound, found⟩ := bind_eq_ok_iff.mp found
  cases found
  exact ⟨files, later, expanded, laterFound, rfl⟩

theorem typeIndex_lt_of_candidatesFrom {around : Surroundings} {root : Path} {index : Nat}
    {seen : List Path} {types : List DocumentType} {candidates : List Candidate}
    (found : Discovery.candidatesFrom around root index seen types = .ok candidates) :
    ∀ candidate ∈ candidates, candidate.typeIndex < index + types.length := by
  induction types generalizing index seen candidates with
  | nil =>
      cases found
      intro candidate member
      cases member
  | cons type rest ih =>
      obtain ⟨files, later, -, laterFound, rfl⟩ := candidatesFrom_cons found
      intro candidate member
      rcases List.mem_append.mp member with own | other
      · obtain ⟨path, -, rfl⟩ := List.mem_map.mp own
        exact Nat.lt_add_of_pos_right (by simp)
      · have := ih laterFound candidate other
        rw [List.length_cons]
        omega

theorem typeIndex_lt_of_discover {around : Surroundings} {settings : IndexSettings}
    {candidates : List Candidate} (found : discover around settings = .ok candidates) :
    ∀ candidate ∈ candidates, candidate.typeIndex < settings.types.length := by
  simpa using typeIndex_lt_of_candidatesFrom found

/-! ## Outcomes in the order of discovery -/

variable {around : Surroundings} {settings : IndexSettings} {candidates : List Candidate}

theorem mem_outcomes {numbered : Nat × Outcome} :
    numbered ∈ outcomes around settings candidates ↔
      ∃ candidate, candidates[numbered.1]? = some candidate ∧
        numbered.2 = parseCandidate around settings candidate := by
  simp only [outcomes, List.mem_map, Prod.exists, List.mk_mem_zipIdx_iff_getElem?]
  constructor
  · rintro ⟨candidate, number, found, rfl⟩
    exact ⟨candidate, found, rfl⟩
  · rintro ⟨candidate, found, outcome⟩
    exact ⟨candidate, numbered.1, found, Prod.ext rfl outcome.symm⟩

/-- The candidates are numbered from zero. -/
theorem outcomes_numbers (around : Surroundings) (settings : IndexSettings)
    (candidates : List Candidate) :
    (outcomes around settings candidates).map (·.1) = List.range candidates.length := by
  rw [outcomes, List.map_map, List.range_eq_range', ← List.zipIdx_map_snd]
  rfl

/-- Numbered outcomes are collected in the order of their numbers, whatever the order of
arrival. -/
theorem collect_eq_of_perm {arrivals numbered : List (Nat × Outcome)}
    (ascending : (numbered.map (·.1)).Pairwise (· < ·)) (arrived : arrivals.Perm numbered) :
    collect arrivals = numbered := by
  have sorted : (collect arrivals).Pairwise
      fun left right => decide (left.1 ≤ right.1) = true := by
    apply List.pairwise_mergeSort
    · intro first second third
      simp only [decide_eq_true_eq]
      exact Nat.le_trans
    · intro left right
      simp only [Bool.or_eq_true, decide_eq_true_eq]
      exact Nat.le_total left.1 right.1
  have collected : (collect arrivals).Perm numbered := (List.mergeSort_perm _ _).trans arrived
  refine List.Perm.eq_of_pairwise ?_ (sorted.imp of_decide_eq_true)
    ((List.pairwise_map.mp ascending).imp Nat.le_of_lt) collected
  -- no two outcomes have one number
  intro left right leftMember rightMember below above
  exact List.inj_on_of_nodup_map (ascending.imp Nat.ne_of_lt) (collected.subset leftMember)
    rightMember (Nat.le_antisymm below above)

/-- Whatever the order of arrival, the outcomes are taken over in the order of
discovery. -/
theorem collect_of_perm {arrivals : List (Nat × Outcome)}
    (arrived : arrivals.Perm (outcomes around settings candidates)) :
    collect arrivals = outcomes around settings candidates := by
  apply collect_eq_of_perm _ arrived
  rw [outcomes_numbers]
  exact List.pairwise_lt_range

/-- The documents that candidates hold, in order; a candidate that is refused has
none. -/
def documentsOf (around : Surroundings) (settings : IndexSettings)
    (candidates : List Candidate) : List Entity :=
  candidates.filterMap fun candidate => (parseCandidate around settings candidate).toOption

/-- The records of the candidates that are refused, in order: the path, the name of
the type and the wording of the error. -/
def refusalsOf (around : Surroundings) (settings : IndexSettings)
    (candidates : List Candidate) : List Rejection :=
  candidates.filterMap fun candidate =>
    match parseCandidate around settings candidate with
    | .ok _ => none
    | .error error =>
        some {
          path := candidate.path
          typeName := (settings.types.getD candidate.typeIndex default).name
          reason := error.message }

/-- Reading the outcomes is reading the candidates, if a number leads to its candidate. -/
theorem filterMap_outcomes {β : Type} {ofOutcome : Nat × Outcome → Option β}
    {ofCandidate : Candidate → Option β}
    (agree : ∀ number candidate, candidates[number]? = some candidate →
      ofOutcome (number, parseCandidate around settings candidate) = ofCandidate candidate) :
    (outcomes around settings candidates).filterMap ofOutcome =
      candidates.filterMap ofCandidate := by
  have numbered : candidates.filterMap ofCandidate =
      candidates.zipIdx.filterMap fun entry => ofCandidate entry.1 := by
    conv => lhs; rw [← List.zipIdx_map_fst 0 candidates, List.filterMap_map]
    rfl
  rw [numbered, outcomes, List.filterMap_map]
  apply List.filterMap_congr
  intro entry member
  exact agree entry.2 entry.1 (List.mem_zipIdx_iff_getElem?.mp member)

theorem accepted_outcomes (around : Surroundings) (settings : IndexSettings)
    (candidates : List Candidate) :
    (accepted (outcomes around settings candidates)).map (·.2) =
      documentsOf around settings candidates := by
  rw [accepted, List.map_filterMap]
  apply filterMap_outcomes
  intro number candidate _
  cases parseCandidate around settings candidate <;> rfl

theorem refused_outcomes (around : Surroundings) (settings : IndexSettings)
    (candidates : List Candidate) :
    refused settings candidates (outcomes around settings candidates) =
      refusalsOf around settings candidates := by
  apply filterMap_outcomes
  intro number candidate found
  rw [List.getD_eq_getElem?_getD, found, Option.getD_some]
  cases parseCandidate around settings candidate <;> rfl

/-- Each candidate holds a document or is refused. -/
theorem length_documentsOf_add (around : Surroundings) (settings : IndexSettings)
    (candidates : List Candidate) :
    (documentsOf around settings candidates).length +
      (refusalsOf around settings candidates).length = candidates.length := by
  induction candidates with
  | nil => rfl
  | cons candidate rest ih =>
      rw [documentsOf, refusalsOf, List.filterMap_cons, List.filterMap_cons, ← documentsOf,
        ← refusalsOf]
      cases parseCandidate around settings candidate <;>
        simp only [Except.toOption, List.length_cons] <;> omega

/-! ## The published contents -/

/-- The contents account for each of some candidates once. -/
structure Publishes (around : Surroundings) (settings : IndexSettings)
    (candidates : List Candidate) (contents : IndexContents) : Prop where
  /-- Every candidate is of one of the types of the settings. -/
  typed : ∀ candidate ∈ candidates, candidate.typeIndex < settings.types.length
  summaries : contents.summaries = (documentsOf around settings candidates).map (·.summary)
  rejections : contents.rejections = refusalsOf around settings candidates
  distinct : (contents.summaries.map (·.id)).Nodup
  /-- The table has the ids of the summaries as its keys, each once. -/
  keys : (contents.entities.map (·.1)).Perm (contents.summaries.map (·.id))
  /-- Under an id stands the document with that id. -/
  lookup_iff : ∀ id entity, contents.entities.lookup id = some entity ↔
    entity ∈ documentsOf around settings candidates ∧ entity.id = id
  /-- The document under the id of a listed summary is the one that is summarized. -/
  listed : ∀ summary ∈ contents.summaries, ∃ entity,
    contents.entities.lookup summary.id = some entity ∧ entity.id = summary.id ∧
      entity.summary = summary
  stats : contents.stats =
    ⟨candidates.length, contents.summaries.length, contents.rejections.length⟩
  total : contents.stats.discovered = contents.stats.indexed + contents.stats.rejected

theorem Publishes.of_follows {intake : Intake}
    (typed : ∀ candidate ∈ candidates, candidate.typeIndex < settings.types.length)
    (follows : intake.Follows settings candidates (outcomes around settings candidates)) :
    Publishes around settings candidates (intake.contents candidates.length) := by
  have documents := accepted_outcomes around settings candidates
  have summaries : intake.summaries =
      (documentsOf around settings candidates).map (·.summary) := by
    rw [follows.summaries, ← documents, List.map_map]
    rfl
  have ids : intake.summaries.map (·.id) =
      (documentsOf around settings candidates).map (·.id) := by
    rw [summaries, List.map_map]
    rfl
  have distinct : ((documentsOf around settings candidates).map (·.id)).Nodup := by
    rw [← documents, List.map_map]
    exact follows.distinct
  have rejections := follows.rejections.trans (refused_outcomes around settings candidates)
  have lookup (id : String) : intake.entities.lookup id =
      (documentsOf around settings candidates).find? (·.id == id) := by
    rw [follows.entities id, ← documents, List.find?_map]
    rfl
  have lookup_iff (id : String) (entity : Entity) : intake.entities.lookup id = some entity ↔
      entity ∈ documentsOf around settings candidates ∧ entity.id = id := by
    rw [lookup]
    constructor
    · intro found
      exact ⟨List.mem_of_find?_eq_some found, by simpa using List.find?_some found⟩
    · rintro ⟨member, rfl⟩
      exact Backend.find?_eq_some_of_mem distinct member
  have indexed : intake.entities.length = intake.summaries.length := by
    simpa using follows.keys.length_eq
  have total := length_documentsOf_add around settings candidates
  exact {
    typed := typed
    summaries := summaries
    rejections := rejections
    distinct := ids ▸ distinct
    keys := follows.keys
    lookup_iff := lookup_iff
    listed := by
      intro summary member
      change summary ∈ intake.summaries at member
      rw [summaries] at member
      obtain ⟨entity, held, rfl⟩ := List.mem_map.mp member
      exact ⟨entity, (lookup_iff _ _).mpr ⟨held, rfl⟩, rfl, rfl⟩
    stats := by rw [Intake.contents, indexed]
    total := by
      simp only [Intake.contents, indexed, summaries, rejections, List.length_map]
      exact total.symm }

/-- A load publishes the same account of the candidates whatever the order in which
their outcomes arrive. -/
theorem publishes_of_publish {arrivals : List (Nat × Outcome)} {contents : IndexContents}
    (found : discover around settings = .ok candidates)
    (arrived : arrivals.Perm (outcomes around settings candidates))
    (published : publish settings candidates arrivals = .ok contents) :
    Publishes around settings candidates contents := by
  rw [publish, commit, collect_of_perm arrived] at published
  obtain ⟨intake, takes, published⟩ := bind_eq_ok_iff.mp published
  cases published
  have follows := Intake.follows_nil.foldlM_take takes
  exact .of_follows (typeIndex_lt_of_discover found) follows

/-- A load that succeeds has found candidates and published the account of them. -/
theorem exists_publishes_of_contentsOf {contents : IndexContents}
    (loads : contentsOf around settings = .ok contents) :
    ∃ candidates, discover around settings = .ok candidates ∧
      Publishes around settings candidates contents := by
  obtain ⟨-, -, loads⟩ := bind_eq_ok_iff.mp loads
  obtain ⟨candidates, found, loads⟩ := bind_eq_ok_iff.mp loads
  obtain ⟨-, -, published⟩ := bind_eq_ok_iff.mp loads
  exact ⟨candidates, found, publishes_of_publish found (.refl _) published⟩

/-- The table and the list of summaries agree under every id. -/
theorem Publishes.map_lookup {contents : IndexContents}
    (publishes : Publishes around settings candidates contents) (id : String) :
    (contents.entities.lookup id).map (·.summary) =
      contents.summaries.find? (·.id == id) := by
  cases held : contents.entities.lookup id with
  | none =>
      symm
      rw [Option.map_none, List.find?_eq_none]
      intro summary member same
      rw [beq_iff_eq] at same
      obtain ⟨entity, listed, -, -⟩ := publishes.listed summary member
      rw [same, held] at listed
      cases listed
  | some entity =>
      obtain ⟨member, rfl⟩ := (publishes.lookup_iff id entity).mp held
      have listed : entity.summary ∈ contents.summaries := by
        rw [publishes.summaries]
        exact List.mem_map_of_mem member
      exact (Backend.find?_eq_some_of_mem publishes.distinct listed).symm

/-! ## Requests -/

/-- A request is answered with the known ids among those asked for, in the order of
their first mention and without repetitions. -/
theorem Publishes.ids_details {contents : IndexContents}
    (publishes : Publishes around settings candidates contents) (ids : List String) :
    (contents.details ids).map (·.id) =
      ids.eraseDups.filter fun id => (contents.summaries.map (·.id)).contains id := by
  have named (id : String) (entity : Entity) (found : contents.entity? id = some entity) :
      entity.id = id := ((publishes.lookup_iff id entity).mp found).2
  rw [IndexContents.details, Backend.keys_filterMap named, Backend.keepFirst_id]
  apply List.filter_congr
  intro id _
  rw [Bool.eq_iff_iff, IndexContents.entity?, Keyed.lookup_isSome_iff_mem,
    publishes.keys.mem_iff, List.contains_iff_mem]

theorem Publishes.lookup_of_mem_details {contents : IndexContents}
    (publishes : Publishes around settings candidates contents) {ids : List String}
    {entity : Entity} (served : entity ∈ contents.details ids) :
    contents.entities.lookup entity.id = some entity := by
  obtain ⟨id, -, found⟩ := List.mem_filterMap.mp served
  have same : entity.id = id := ((publishes.lookup_iff id entity).mp found).2
  rw [same]
  exact found

/-- A load that succeeds has published the account of the candidates that it found, and
the index answers from it: with all summaries, with the counts and the refusals, and with
the documents under the known ids that are asked for, in the order of their first mention
and each once. -/
theorem load_publishes {around : Surroundings} {index after : Index}
    (loads : index.load around = (.ok (), after)) :
    ∃ candidates contents, discover around index.settings = .ok candidates ∧
      after.contents = some contents ∧
      Publishes around index.settings candidates contents ∧
      after.stats = some contents.stats ∧ after.size = contents.summaries.length ∧
      after.rejections = contents.rejections ∧
      after.source.summary = .complete contents.summaries ∧
      ∀ ids, ∃ served, after.source.details ids = .complete served ∧
        served.map (·.id) =
          ids.eraseDups.filter (fun id => (contents.summaries.map (·.id)).contains id) ∧
        ∀ entity ∈ served, contents.entities.lookup entity.id = some entity := by
  rcases load_cases around index with ⟨error, load⟩ | ⟨contents, -, succeeds, load⟩
  · rw [load] at loads
    cases loads
  · rw [load] at loads
    cases loads
    obtain ⟨candidates, found, publishes⟩ := exists_publishes_of_contentsOf succeeds
    have size : contents.entities.length = contents.summaries.length := by
      simpa using publishes.keys.length_eq
    refine ⟨candidates, contents, found, rfl, publishes, rfl, size, rfl, rfl, ?_⟩
    intro ids
    exact ⟨contents.details ids, rfl, publishes.ids_details ids,
      fun entity served => publishes.lookup_of_mem_details served⟩

/-! ## A guide with a behavior, a recipe and a file that is no document -/

def guideFiles : FileTree :=
  .directory [("guide", .directory [
    ("must", .directory [
      ("tests.bhv", .file (.text "---\nid: run-tests\n---\nRun them.\n") Moment.epoch)]),
    ("recipes", .directory [
      ("broken.rcp", .file (.text "no front matter") Moment.epoch),
      ("release.rcp", .file (.text "---\nid: release\ntags: [core]\n---\nTag it.\n")
        Moment.epoch)])])]

def guideAround : Surroundings where
  files := guideFiles
  workingDirectory := ⟨"/"⟩
  user? := none

def guideSettings : IndexSettings where
  root := ⟨"/guide"⟩
  types := [{ name := "behavior", glob := "*/*.bhv" }, { name := "recipe", glob := "recipes/*" }]

def guideCandidates : List Candidate :=
  [⟨⟨"/guide/must/tests.bhv"⟩, 0⟩, ⟨⟨"/guide/recipes/broken.rcp"⟩, 1⟩,
    ⟨⟨"/guide/recipes/release.rcp"⟩, 1⟩]

/-- The files of a type can be listed without sorting when they are found in order. -/
theorem filesOf_of_sorted {root : Path} {type : DocumentType} {paths : List Path}
    (matched : (Glob.parse (Discovery.globText root type)).map (fun glob =>
      (glob.expand around).filter fun path =>
        around.isFile path && Discovery.hasExtension type path) = .ok paths)
    (sorted : paths.Pairwise fun left right => left.notAfter right = true) :
    Discovery.filesOf around root type = .ok paths := by
  unfold Discovery.filesOf
  cases parsed : Glob.parse (Discovery.globText root type) with
  | error error =>
      rw [parsed] at matched
      cases matched
  | ok glob =>
      rw [parsed] at matched
      simp only [Except.map, Except.ok.injEq] at matched ⊢
      rw [matched]
      exact List.mergeSort_of_pairwise sorted

theorem discover_guide : discover guideAround guideSettings = .ok guideCandidates := by
  have behaviors : Discovery.filesOf guideAround ⟨"/guide"⟩
      { name := "behavior", glob := "*/*.bhv" } = .ok [⟨"/guide/must/tests.bhv"⟩] :=
    filesOf_of_sorted (by rfl) (by decide +kernel)
  have recipes : Discovery.filesOf guideAround ⟨"/guide"⟩
      { name := "recipe", glob := "recipes/*" } =
        .ok [⟨"/guide/recipes/broken.rcp"⟩, ⟨"/guide/recipes/release.rcp"⟩] :=
    filesOf_of_sorted (by rfl) (by decide +kernel)
  change Discovery.candidatesFrom guideAround ⟨"/guide"⟩ 0 [] _ = _
  simp only [guideSettings, Discovery.candidatesFrom, behaviors, recipes]
  rfl

theorem load_guide : ∃ after, (fresh guideSettings).load guideAround = (.ok (), after) := by
  have taken : (commit guideSettings guideCandidates
      (outcomes guideAround guideSettings guideCandidates)).isOk = true := by
    decide +kernel
  have succeeds : contentsOf guideAround guideSettings =
      commit guideSettings guideCandidates
        (outcomes guideAround guideSettings guideCandidates) := by
    rw [contentsOf_eq_publish (by rfl) discover_guide rfl, publish, collect_of_perm (.refl _)]
  cases result : commit guideSettings guideCandidates
      (outcomes guideAround guideSettings guideCandidates) with
  | error error =>
      rw [result] at taken
      cases taken
  | ok contents => exact ⟨_, load_of_ok rfl (succeeds.trans result)⟩

theorem load_publishes_guide :
    ∃ after contents, (fresh guideSettings).load guideAround = (.ok (), after) ∧
      after.contents = some contents ∧
      Publishes guideAround guideSettings guideCandidates contents ∧
      after.source.summary = .complete contents.summaries := by
  obtain ⟨after, loads⟩ := load_guide
  obtain ⟨candidates, contents, found, held, publishes, -, -, -, summary, -⟩ :=
    load_publishes loads
  cases found.symm.trans discover_guide
  exact ⟨after, contents, loads, held, publishes, summary⟩

end Guidebook.Index
