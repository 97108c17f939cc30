import Guidebook.Proofs.DiscoveryOrder
import Guidebook.Proofs.Scheduling
import Mathlib.Order.Bounds.Basic

/-!
# Loads that end with a clash

Of all that can be said about the documents of a guide, only two documents with one id end its
load.  The error names the first document whose id is taken, and the document that has taken
it; candidates that are refused have no say in it.
-/

namespace Guidebook.Index

variable {around : Surroundings} {settings : IndexSettings} {candidates : List Candidate}
  {error : Error}

/-! ## The first clash -/

/-- The id of the document that a candidate holds, if it holds one. -/
def idOf? (around : Surroundings) (settings : IndexSettings) (candidate : Candidate) :
    Option String :=
  (parseCandidate around settings candidate).toOption.map (·.id)

/-- The id of the document that the candidate at a place holds. -/
def idAt? (around : Surroundings) (settings : IndexSettings) (candidates : List Candidate)
    (place : ℕ) : Option String :=
  candidates[place]?.bind (idOf? around settings)

/-- The document at a place has an id that one before it has. -/
def Repeats (ids : ℕ → Option String) (place : ℕ) : Prop :=
  ∃ id, ids place = some id ∧ ∃ earlier < place, ids earlier = some id

/-- The document at `second` is the first with a taken id, and the one at `first` is the first
with this id. -/
structure FirstClash (ids : ℕ → Option String) (id : String) (first second : ℕ) : Prop where
  repeated : ids second = some id
  second_least : IsLeast {place | Repeats ids place} second
  first_least : IsLeast {place | ids place = some id} first

/-- The error that names the first clash among some candidates. -/
def ClashesWith (around : Surroundings) (settings : IndexSettings) (candidates : List Candidate)
    (error : Error) : Prop :=
  ∃ id place laterPlace first second,
    FirstClash (idAt? around settings candidates) id place laterPlace ∧
      candidates[place]? = some first ∧ candidates[laterPlace]? = some second ∧
      error = .duplicateId id first.path.text second.path.text

theorem FirstClash.lt {ids : ℕ → Option String} {id : String} {first second : ℕ}
    (clash : FirstClash ids id first second) : first < second := by
  obtain ⟨other, repeated, earlier, before, taken⟩ := clash.second_least.1
  cases repeated.symm.trans clash.repeated
  exact Nat.lt_of_le_of_lt (clash.first_least.2 taken) before

theorem FirstClash.unique {ids : ℕ → Option String} {id other : String}
    {first second third fourth : ℕ} (clash : FirstClash ids id first second)
    (again : FirstClash ids other third fourth) : id = other ∧ first = third ∧ second = fourth := by
  obtain rfl := clash.second_least.unique again.second_least
  obtain rfl := Option.some.inj (clash.repeated.symm.trans again.repeated)
  exact ⟨rfl, clash.first_least.unique again.first_least, rfl⟩

theorem ClashesWith.unique {other : Error} (clashes : ClashesWith around settings candidates error)
    (again : ClashesWith around settings candidates other) : error = other := by
  obtain ⟨id, place, laterPlace, first, second, clash, held, laterHeld, rfl⟩ := clashes
  obtain ⟨_, _, _, _, _, another, heldAgain, laterHeldAgain, rfl⟩ := again
  obtain ⟨rfl, rfl, rfl⟩ := clash.unique another
  cases held.symm.trans heldAgain
  cases laterHeld.symm.trans laterHeldAgain
  rfl

/-- Where an id repeats there is a first clash. -/
theorem exists_clashesWith_of_repeats {later : ℕ}
    (repeats : Repeats (idAt? around settings candidates) later) :
    ∃ error, ClashesWith around settings candidates error := by
  classical
  have somewhere : ∃ place, Repeats (idAt? around settings candidates) place := ⟨later, repeats⟩
  obtain ⟨id, repeated, -⟩ := Nat.find_spec somewhere
  have taken : ∃ place, idAt? around settings candidates place = some id := ⟨_, repeated⟩
  have clash : FirstClash (idAt? around settings candidates) id (Nat.find taken)
      (Nat.find somewhere) :=
    ⟨repeated, ⟨Nat.find_spec somewhere, fun _ => Nat.find_min' somewhere⟩,
      Nat.find_spec taken, fun _ => Nat.find_min' taken⟩
  obtain ⟨second, held, -⟩ := Option.bind_eq_some_iff.mp repeated
  obtain ⟨first, heldBefore, -⟩ := Option.bind_eq_some_iff.mp (Nat.find_spec taken)
  exact ⟨_, id, _, _, first, second, clash, heldBefore, held, rfl⟩

theorem idOf?_eq_some_iff {candidate : Candidate} {id : String} :
    idOf? around settings candidate = some id ↔
      ∃ entity, parseCandidate around settings candidate = .ok entity ∧ entity.id = id := by
  rw [idOf?]
  cases parseCandidate around settings candidate <;> simp [Except.toOption]

theorem map_id_documentsOf : (documentsOf around settings candidates).map (·.id) =
    candidates.filterMap (idOf? around settings) := by
  rw [documentsOf, List.map_filterMap]
  rfl

/-- Documents have distinct ids if none of them has that of one before. -/
theorem nodup_ids_iff : ((documentsOf around settings candidates).map (·.id)).Nodup ↔
    ∀ place, ¬Repeats (idAt? around settings candidates) place := by
  rw [map_id_documentsOf, List.Nodup, List.pairwise_filterMap, List.pairwise_iff_getElem]
  constructor
  · rintro apart second ⟨id, repeated, first, before, taken⟩
    obtain ⟨later, held, named⟩ := Option.bind_eq_some_iff.mp repeated
    obtain ⟨sooner, heldBefore, namedBefore⟩ := Option.bind_eq_some_iff.mp taken
    obtain ⟨bound, rfl⟩ := List.getElem?_eq_some_iff.mp held
    obtain ⟨boundBefore, rfl⟩ := List.getElem?_eq_some_iff.mp heldBefore
    exact apart first second boundBefore bound before id namedBefore id named rfl
  · rintro fresh first second boundBefore bound before id taken other repeated rfl
    refine fresh second ⟨id, ?_, first, before, ?_⟩
    · rw [idAt?, List.getElem?_eq_getElem bound, Option.bind_some, repeated]
    · rw [idAt?, List.getElem?_eq_getElem boundBefore, Option.bind_some, taken]

/-! ## Where the candidates are split -/

/-- Up to the second document of the first clash all ids are distinct. -/
inductive SplitsAt (around : Surroundings) (settings : IndexSettings) :
    List Candidate → Error → Prop where
  | intro {before after : List Candidate} {first second : Candidate} {id : String}
      (member : first ∈ before) (held : idOf? around settings first = some id)
      (repeated : idOf? around settings second = some id)
      (distinct : ((documentsOf around settings before).map (·.id)).Nodup) :
      SplitsAt around settings (before ++ second :: after)
        (.duplicateId id first.path.text second.path.text)

theorem idAt?_append_left {before rest : List Candidate} {place : ℕ}
    (within : place < before.length) :
    idAt? around settings (before ++ rest) place = idAt? around settings before place := by
  rw [idAt?, List.getElem?_append_left within, idAt?]

theorem lt_length_of_idAt? {place : ℕ} {id : String}
    (held : idAt? around settings candidates place = some id) : place < candidates.length := by
  obtain ⟨candidate, there, -⟩ := Option.bind_eq_some_iff.mp held
  exact (List.getElem?_eq_some_iff.mp there).1

/-- Whether an id repeats is told by what comes before. -/
theorem repeats_append_left_iff {before rest : List Candidate} {place : ℕ}
    (within : place < before.length) :
    Repeats (idAt? around settings (before ++ rest)) place ↔
      Repeats (idAt? around settings before) place := by
  have front (earlier : ℕ) (sooner : earlier < place) :
      idAt? around settings (before ++ rest) earlier = idAt? around settings before earlier :=
    idAt?_append_left (Nat.lt_trans sooner within)
  rw [Repeats, Repeats, idAt?_append_left within]
  refine exists_congr fun id => and_congr_right fun _ => exists_congr fun earlier => ?_
  exact and_congr_right fun sooner => by rw [front earlier sooner]

theorem splitsAt_of_clashesWith (clashes : ClashesWith around settings candidates error) :
    SplitsAt around settings candidates error := by
  obtain ⟨id, place, laterPlace, first, second, clash, held, laterHeld, rfl⟩ := clashes
  have taken : idAt? around settings candidates place = some id := clash.first_least.1
  have repeated := clash.repeated
  rw [idAt?, held, Option.bind_some] at taken
  rw [idAt?, laterHeld, Option.bind_some] at repeated
  obtain ⟨before, after, rfl, rfl⟩ :
      ∃ before after, candidates = before ++ second :: after ∧ before.length = laterPlace := by
    obtain ⟨bound, rfl⟩ := List.getElem?_eq_some_iff.mp laterHeld
    refine ⟨candidates.take laterPlace, candidates.drop (laterPlace + 1), ?_, ?_⟩
    · rw [← List.drop_eq_getElem_cons bound, List.take_append_drop]
    · exact List.length_take_of_le (Nat.le_of_lt bound)
  rw [List.getElem?_append_left clash.lt] at held
  refine .intro (List.mem_of_getElem? held) taken repeated ?_
  rw [nodup_ids_iff]
  intro other repeats
  have within : other < before.length := by
    obtain ⟨again, heldAgain, -⟩ := repeats
    exact lt_length_of_idAt? heldAgain
  exact Nat.not_le.mpr within (clash.second_least.2 ((repeats_append_left_iff within).mpr repeats))

theorem clashesWith_of_splitsAt (splits : SplitsAt around settings candidates error) :
    ClashesWith around settings candidates error := by
  cases splits with
  | @intro before after first second id member held repeated distinct =>
      rw [nodup_ids_iff] at distinct
      obtain ⟨place, bound, rfl⟩ := List.mem_iff_getElem.mp member
      have own : idAt? around settings (before ++ second :: after) before.length = some id := by
        simp [idAt?, repeated]
      have front : idAt? around settings before place = some id := by
        rw [idAt?, List.getElem?_eq_getElem bound, Option.bind_some, held]
      have taken : idAt? around settings (before ++ second :: after) place = some id := by
        rw [idAt?_append_left bound, front]
      refine ⟨id, place, before.length, before[place], second,
        ⟨own, ⟨⟨id, own, place, bound, taken⟩, ?later⟩, taken, ?sooner⟩, ?_, ?_, rfl⟩
      case later =>
        intro other repeats
        by_contra within
        rw [not_le] at within
        exact distinct other ((repeats_append_left_iff within).mp repeats)
      case sooner =>
        intro other (takenBefore : idAt? _ _ _ other = some id)
        by_contra sooner
        rw [not_le] at sooner
        rw [idAt?_append_left (Nat.lt_trans sooner bound)] at takenBefore
        exact distinct place ⟨id, front, other, sooner, takenBefore⟩
      · rw [List.getElem?_append_left bound, List.getElem?_eq_getElem bound]
      · simp

theorem clashesWith_iff_splitsAt :
    ClashesWith around settings candidates error ↔ SplitsAt around settings candidates error :=
  ⟨splitsAt_of_clashesWith, clashesWith_of_splitsAt⟩

/-! ## Refused candidates -/

/-- The candidate holds a document. -/
def accepts (around : Surroundings) (settings : IndexSettings) (candidate : Candidate) : Bool :=
  (parseCandidate around settings candidate).isOk

theorem accepts_iff {candidate : Candidate} : accepts around settings candidate = true ↔
    ∃ id, idOf? around settings candidate = some id := by
  rw [accepts, idOf?]
  cases parseCandidate around settings candidate <;>
    simp [Except.toOption, Except.isOk, Except.toBool]

theorem documentsOf_filter_accepts :
    documentsOf around settings (candidates.filter (accepts around settings)) =
      documentsOf around settings candidates := by
  rw [documentsOf, documentsOf, List.filterMap_filter]
  apply List.filterMap_congr
  intro candidate _
  rw [accepts]
  cases parseCandidate around settings candidate <;> rfl

/-- Refused candidates have no part in a clash. -/
theorem clashesWith_filter_accepts_iff :
    ClashesWith around settings (candidates.filter (accepts around settings)) error ↔
      ClashesWith around settings candidates error := by
  rw [clashesWith_iff_splitsAt, clashesWith_iff_splitsAt]
  constructor
  · intro splits
    generalize shape : candidates.filter (accepts around settings) = accepted at splits
    cases splits with
    | @intro before after first second id member held repeated distinct =>
        obtain ⟨front, rest, rfl, rfl, others⟩ := List.filter_eq_append_iff.mp shape
        obtain ⟨refused, back, rfl, silent, -, rfl⟩ := List.filter_eq_cons_iff.mp others
        rw [← List.append_assoc]
        refine .intro (List.mem_append_left refused (List.mem_of_mem_filter member)) held
          repeated ?_
        have same : (front ++ refused).filter (accepts around settings) =
            front.filter (accepts around settings) := by
          rw [List.filter_append, List.filter_eq_nil_iff.mpr silent, List.append_nil]
        rwa [← documentsOf_filter_accepts, same]
  · intro splits
    cases splits with
    | @intro before after first second id member held repeated distinct =>
        rw [List.filter_append, List.filter_cons_of_pos (accepts_iff.mpr ⟨id, repeated⟩)]
        refine .intro (List.mem_filter.mpr ⟨member, accepts_iff.mpr ⟨id, held⟩⟩) held repeated ?_
        rwa [documentsOf_filter_accepts]

/-! ## The outcome of a load -/

theorem commit_eq_error_iff (typed : ∀ candidate ∈ candidates,
    candidate.typeIndex < settings.types.length) :
    commit settings candidates (outcomes around settings candidates) = .error error ↔
      ClashesWith around settings candidates error := by
  have verdict := @verdict_commit around settings candidates typed
  cases result : commit settings candidates (outcomes around settings candidates) with
  | ok contents =>
      rw [result] at verdict
      cases verdict with
      | published publishes =>
          have distinct := publishes.distinct
          rw [publishes.summaries, List.map_map] at distinct
          constructor
          · intro fails
            cases fails
          · rintro ⟨id, place, laterPlace, first, second, clash, -⟩
            exact absurd clash.second_least.1 (nodup_ids_iff.mp distinct laterPlace)
  | error other =>
      rw [result] at verdict
      have clashes : ClashesWith around settings candidates other := by
        cases verdict with
        | clash split member held repeated same distinct =>
            subst split
            exact clashesWith_of_splitsAt (.intro member (idOf?_eq_some_iff.mpr ⟨_, held, same⟩)
              (idOf?_eq_some_iff.mpr ⟨_, repeated, rfl⟩) distinct)
      constructor
      · intro fails
        cases fails
        exact clashes
      · intro again
        rw [clashes.unique again]

/-- There is a clash if two candidates hold documents with one id. -/
theorem exists_clashesWith_iff (apart : candidates.Nodup) :
    (∃ error, ClashesWith around settings candidates error) ↔
      ∃ first ∈ candidates, ∃ second ∈ candidates, first ≠ second ∧ ∃ earlier later,
        parseCandidate around settings first = .ok earlier ∧
        parseCandidate around settings second = .ok later ∧ earlier.id = later.id := by
  constructor
  · rintro ⟨error, clashes⟩
    cases splitsAt_of_clashesWith clashes with
    | @intro before after first second id member held repeated distinct =>
        obtain ⟨earlier, read, named⟩ := idOf?_eq_some_iff.mp held
        obtain ⟨later, readAgain, namedAgain⟩ := idOf?_eq_some_iff.mp repeated
        refine ⟨first, List.mem_append_left _ member, second,
          List.mem_append_right before List.mem_cons_self, ?_, earlier, later, read, readAgain,
          named.trans namedAgain.symm⟩
        rintro rfl
        exact List.disjoint_of_nodup_append apart member List.mem_cons_self
  · rintro ⟨first, member, second, memberAgain, different, earlier, later, read, readAgain, same⟩
    obtain ⟨place, bound, rfl⟩ := List.mem_iff_getElem.mp member
    obtain ⟨other, otherBound, rfl⟩ := List.mem_iff_getElem.mp memberAgain
    have apart : place ≠ other := by
      rintro rfl
      exact different rfl
    have id : idAt? around settings candidates place = some later.id := by
      rw [idAt?, List.getElem?_eq_getElem bound]
      exact idOf?_eq_some_iff.mpr ⟨earlier, read, same⟩
    have otherId : idAt? around settings candidates other = some later.id := by
      rw [idAt?, List.getElem?_eq_getElem otherBound]
      exact idOf?_eq_some_iff.mpr ⟨later, readAgain, rfl⟩
    rcases Nat.lt_or_gt_of_ne apart with before | after
    · exact exists_clashesWith_of_repeats ⟨later.id, otherId, place, before, id⟩
    · exact exists_clashesWith_of_repeats ⟨later.id, id, other, after, otherId⟩

/-- Once candidates are found, a load fails with their first clash only. -/
theorem load_eq_error_iff {index after : Index} (unclaimed : index.claimed = false)
    (valid : index.settings.validate around = .ok ())
    (found : discover around index.settings = .ok candidates)
    (started : startWorkers around index.settings = .ok ()) :
    index.load around = (.error error, after) ↔
      after = index ∧ ClashesWith around index.settings candidates error := by
  have outcome : contentsOf around index.settings = commit index.settings candidates
      (outcomes around index.settings candidates) := by
    rw [contentsOf_eq_publish valid found started, publish, collect_of_perm (.refl _)]
  rw [← commit_eq_error_iff (typeIndex_lt_of_discover found), ← outcome]
  cases result : contentsOf around index.settings with
  | ok contents =>
      rw [load_of_ok unclaimed result]
      simp
  | error other =>
      rw [load_of_error unclaimed result, Prod.mk.injEq, Except.error.injEq, Except.error.injEq]
      constructor
      · rintro ⟨rfl, rfl⟩
        exact ⟨rfl, rfl⟩
      · rintro ⟨rfl, rfl⟩
        exact ⟨rfl, rfl⟩

/-- Once candidates are found, a load fails if two of them hold documents with one id, and not
for anything else.  Its error names the first clash, the index stays as it is, and candidates
that are refused make no difference. -/
theorem load_fails_iff_clash {index : Index} (unclaimed : index.claimed = false)
    (valid : index.settings.validate around = .ok ())
    (found : discover around index.settings = .ok candidates)
    (started : startWorkers around index.settings = .ok ()) :
    ((∃ error, (index.load around).1 = .error error) ↔
      ∃ first ∈ candidates, ∃ second ∈ candidates, first ≠ second ∧ ∃ earlier later,
        parseCandidate around index.settings first = .ok earlier ∧
        parseCandidate around index.settings second = .ok later ∧ earlier.id = later.id) ∧
    (∀ error after, index.load around = (.error error, after) ↔
      after = index ∧ ClashesWith around index.settings candidates error) ∧
    ∀ others : List Candidate,
      others.filter (accepts around index.settings) =
        candidates.filter (accepts around index.settings) →
      ∀ error, ClashesWith around index.settings others error ↔
        ClashesWith around index.settings candidates error := by
  have apart : candidates.Nodup := (Discovery.nodup_of_candidatesFrom found).1.of_map
  have fails_iff (error : Error) (after : Index) : index.load around = (.error error, after) ↔
      after = index ∧ ClashesWith around index.settings candidates error :=
    load_eq_error_iff unclaimed valid found started
  refine ⟨?_, fails_iff, ?_⟩
  · rw [← exists_clashesWith_iff apart]
    refine exists_congr fun error => ?_
    constructor
    · intro fails
      exact ((fails_iff error (index.load around).2).mp (Prod.ext fails rfl)).2
    · intro clashes
      rw [(fails_iff error index).mpr ⟨rfl, clashes⟩]
  · intro others same error
    rw [← clashesWith_filter_accepts_iff, same, clashesWith_filter_accepts_iff]

/-! ## A behavior and two recipes with one id -/

def clashAround : Surroundings where
  files := .directory [("guide", .directory [
    ("must", .directory [
      ("broken.bhv", .file (.text "no front matter") Moment.epoch),
      ("tests.bhv", .file (.text "---\nid: tests\n---\nRun them.\n") Moment.epoch)]),
    ("recipes", .directory [
      ("a.rcp", .file (.text "---\nid: 1\n---\n") Moment.epoch),
      ("b.rcp", .file (.text "---\nid: tests\n---\n") Moment.epoch),
      ("c.rcp", .file (.text "---\nid: tests\n---\n") Moment.epoch)])])]
  workingDirectory := ⟨"/"⟩
  user? := none

def clashCandidates : List Candidate :=
  [⟨⟨"/guide/must/broken.bhv"⟩, 0⟩, ⟨⟨"/guide/must/tests.bhv"⟩, 0⟩,
    ⟨⟨"/guide/recipes/a.rcp"⟩, 1⟩, ⟨⟨"/guide/recipes/b.rcp"⟩, 1⟩, ⟨⟨"/guide/recipes/c.rcp"⟩, 1⟩]

theorem discover_clash : discover clashAround guideSettings = .ok clashCandidates := by
  have behaviors : Discovery.filesOf clashAround ⟨"/guide"⟩
      { name := "behavior", glob := "*/*.bhv" } =
        .ok [⟨"/guide/must/broken.bhv"⟩, ⟨"/guide/must/tests.bhv"⟩] :=
    filesOf_of_sorted (by rfl) (by decide +kernel)
  have recipes : Discovery.filesOf clashAround ⟨"/guide"⟩
      { name := "recipe", glob := "recipes/*" } =
        .ok [⟨"/guide/recipes/a.rcp"⟩, ⟨"/guide/recipes/b.rcp"⟩, ⟨"/guide/recipes/c.rcp"⟩] :=
    filesOf_of_sorted (by rfl) (by decide +kernel)
  change Discovery.candidatesFrom clashAround ⟨"/guide"⟩ 0 [] _ = _
  simp only [guideSettings, Discovery.candidatesFrom, behaviors, recipes]
  rfl

theorem load_fails_iff_clash_recipes :
    (fresh guideSettings).load clashAround =
      (.error (.duplicateId "tests" "/guide/must/tests.bhv" "/guide/recipes/b.rcp"),
        fresh guideSettings) := by
  obtain ⟨-, fails_iff, -⟩ :=
    @load_fails_iff_clash clashAround clashCandidates (fresh guideSettings) rfl (by rfl)
      discover_clash rfl
  rw [fails_iff]
  refine ⟨rfl, clashesWith_of_splitsAt ?_⟩
  have tests : (⟨⟨"/guide/must/tests.bhv"⟩, 0⟩ : Candidate) ∈ clashCandidates.take 3 := by decide
  exact .intro tests (by decide +kernel) (by decide +kernel) (by decide +kernel)

end Guidebook.Index
