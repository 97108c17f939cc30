import Guidebook.Index.Pool
import Guidebook.Proofs.Publication

/-!
# Loads do not depend on their workers

Every run of a pool of workers comes to an end with one outcome for each candidate, and
every order of these outcomes is the order of some run.  What the load publishes is the
same for all of them: it is told here from the candidates alone, as the account of their
documents or as the first two documents in the order of discovery that have one id.
-/

namespace Guidebook.Index

variable {around : Surroundings} {settings : IndexSettings} {candidates : List Candidate}

namespace Pool

variable {workers : Nat}

/-- The pool accounts for the outcomes of some candidates: they are sent or still to come,
and no more workers are busy than there are. -/
structure Accounts (around : Surroundings) (settings : IndexSettings) (workers : Nat)
    (candidates : List Candidate) (pool : Pool) : Prop where
  outcomes : (pool.arrivals ++ (pool.running ++ pool.waiting).map (sent around settings)).Perm
    (outcomes around settings candidates)
  bounded : pool.running.length ≤ workers

theorem accounts_start (around : Surroundings) (settings : IndexSettings) (workers : Nat)
    (candidates : List Candidate) :
    Accounts around settings workers candidates (start candidates) where
  outcomes := .refl _
  bounded := Nat.zero_le workers

theorem Accounts.step {pool next : Pool}
    (accounts : Accounts around settings workers candidates pool)
    (step : Step around settings workers pool next) :
    Accounts around settings workers candidates next := by
  cases step with
  | @takeUp before after running task arrivals free =>
      have moved : (running ++ (before ++ task :: after)).Perm
          (task :: running ++ (before ++ after)) := by
        rw [List.cons_append, ← List.append_assoc, ← List.append_assoc]
        exact List.perm_middle
      exact ⟨((moved.symm.map _).append_left arrivals).trans accounts.outcomes, free⟩
  | @send before waiting after task arrivals =>
      constructor
      · refine .trans ?_ accounts.outcomes
        simp only [List.append_assoc, List.map_append, List.map_cons, List.singleton_append]
        exact .append_left arrivals List.perm_middle.symm
      · have bounded := accounts.bounded
        simp only [List.length_append, List.length_cons] at bounded ⊢
        omega

theorem Accounts.reaches {pool final : Pool}
    (accounts : Accounts around settings workers candidates pool)
    (run : Reaches around settings workers pool final) :
    Accounts around settings workers candidates final := by
  induction run with
  | refl => exact accounts
  | tail _ step ih => exact ih.step step

/-! ## Every run comes to an end -/

/-- The number of steps that are left. -/
def left (pool : Pool) : Nat := 2 * pool.waiting.length + pool.running.length

theorem Step.left_eq {pool next : Pool} (step : Step around settings workers pool next) :
    pool.left = next.left + 1 := by
  cases step <;> simp only [left, List.length_append, List.length_cons] <;> omega

/-- With a worker at all, a pool goes on until nothing is left to do. -/
theorem done_or_step (around : Surroundings) (settings : IndexSettings) (working : 0 < workers)
    (pool : Pool) :
    (∃ arrivals, pool = done arrivals) ∨ ∃ next, Step around settings workers pool next := by
  obtain ⟨waiting, running, arrivals⟩ := pool
  cases running with
  | cons task running => exact .inr ⟨_, .send []⟩
  | nil =>
      cases waiting with
      | cons task waiting => exact .inr ⟨_, .takeUp [] working⟩
      | nil => exact .inl ⟨arrivals, rfl⟩

theorem exists_reaches_done (around : Surroundings) (settings : IndexSettings)
    (working : 0 < workers) (pool : Pool) :
    ∃ arrivals, Reaches around settings workers pool (done arrivals) := by
  rcases done_or_step around settings working pool with ⟨arrivals, rfl⟩ | ⟨next, step⟩
  · exact ⟨arrivals, .refl⟩
  · obtain ⟨arrivals, run⟩ := exists_reaches_done around settings working next
    exact ⟨arrivals, .head step run⟩
termination_by pool.left
decreasing_by
  rw [step.left_eq]
  exact Nat.lt_succ_self next.left

/-! ## Orders of arrival -/

/-- One worker can send the outcomes of what waits in any order. -/
theorem reaches_done_of_perm (working : 0 < workers) {waiting : List (Candidate × Nat)}
    (arrivals : List (Nat × Outcome)) {order : List (Nat × Outcome)}
    (reordered : order.Perm (waiting.map (sent around settings))) :
    Reaches around settings workers ⟨waiting, [], arrivals⟩ (done (arrivals ++ order)) := by
  induction order generalizing waiting arrivals with
  | nil =>
      rw [List.nil_perm, List.map_eq_nil_iff] at reordered
      rw [reordered, List.append_nil]
      exact .refl
  | cons first rest ih =>
      -- a worker takes up the candidate whose outcome comes first, and sends it at once
      obtain ⟨task, member, rfl⟩ := List.mem_map.mp (reordered.subset List.mem_cons_self)
      obtain ⟨before, after, rfl⟩ := List.append_of_mem member
      have others : rest.Perm ((before ++ after).map (sent around settings)) := by
        rw [List.map_append, List.map_cons] at reordered
        rw [List.map_append]
        exact (reordered.trans List.perm_middle).cons_inv
      have later := ih (arrivals ++ [sent around settings task]) others
      rw [List.append_assoc] at later
      exact .head (.takeUp before working) (.head (.send []) later)

/-- The workers hand in the outcomes of the candidates, each once, in any order. -/
theorem handsIn_iff (working : 0 < workers) {arrivals : List (Nat × Outcome)} :
    HandsIn around settings workers candidates arrivals ↔
      arrivals.Perm (outcomes around settings candidates) := by
  constructor
  · intro run
    simpa [done] using ((accounts_start around settings workers candidates).reaches run).outcomes
  · intro reordered
    exact reaches_done_of_perm working [] reordered

end Pool

/-! ## The verdict of a load -/

/-- What a load makes of candidates, told from the candidates alone. -/
inductive Verdict (around : Surroundings) (settings : IndexSettings)
    (candidates : List Candidate) : Except Error IndexContents → Prop where
  /-- No two documents have one id. -/
  | published {contents : IndexContents}
      (publishes : Publishes around settings candidates contents) :
      Verdict around settings candidates (.ok contents)
  /-- Before `second` all ids are distinct, and its own is that of `first`. -/
  | clash {before after : List Candidate} {first second : Candidate} {earlier later : Entity}
      (split : candidates = before ++ second :: after) (member : first ∈ before)
      (held : parseCandidate around settings first = .ok earlier)
      (repeated : parseCandidate around settings second = .ok later)
      (same : earlier.id = later.id)
      (distinct : ((documentsOf around settings before).map (·.id)).Nodup) :
      Verdict around settings candidates
        (.error (.duplicateId later.id first.path.text second.path.text))

/-- The outcomes before and after one of them are those of the candidates before and
after. -/
theorem exists_of_outcomes_eq {taken later : List (Nat × Outcome)} {numbered : Nat × Outcome}
    (split : outcomes around settings candidates = taken ++ numbered :: later) :
    ∃ before candidate after, candidates = before ++ candidate :: after ∧
      taken = outcomes around settings before ∧
      numbered = (before.length, parseCandidate around settings candidate) := by
  obtain ⟨tasks, others, tasksSplit, rfl, rest⟩ := List.map_eq_append_iff.mp split
  obtain ⟨⟨candidate, number⟩, more, rfl, rfl, -⟩ := List.map_eq_cons_iff.mp rest
  obtain ⟨before, tail, rfl, rfl, tailSplit⟩ := List.zipIdx_eq_append_iff.mp tasksSplit
  cases tail with
  | nil => cases tailSplit
  | cons first after =>
      rw [List.zipIdx_cons, Nat.zero_add] at tailSplit
      cases tailSplit
      exact ⟨before, candidate, after, rfl, rfl, rfl⟩

theorem verdict_commit (typed : ∀ candidate ∈ candidates,
    candidate.typeIndex < settings.types.length) :
    Verdict around settings candidates
      (commit settings candidates (outcomes around settings candidates)) := by
  cases taken : (outcomes around settings candidates).foldlM
      (Intake.take settings candidates) {} with
  | ok intake =>
      rw [commit, taken]
      exact .published (.of_follows typed (Intake.follows_nil.foldlM_take taken))
  | error error =>
      rw [commit, taken]
      obtain ⟨sooner, number, later, rest, split, stopped, follows, clashes⟩ :=
        Intake.follows_nil.exists_of_foldlM_take_error taken
      obtain ⟨before, second, after, rfl, rfl, numbered⟩ := exists_of_outcomes_eq split
      obtain ⟨rfl, repeated⟩ := Prod.mk.inj numbered
      obtain ⟨place, earlier, member, same, rfl⟩ := follows.exists_of_accept_error clashes
      obtain ⟨first, found, held⟩ := mem_outcomes.mp member
      have distinct : ((documentsOf around settings before).map (·.id)).Nodup := by
        rw [← accepted_outcomes, List.map_map]
        exact follows.distinct
      obtain ⟨bound, -⟩ := List.getElem?_eq_some_iff.mp found
      have owner : (before ++ second :: after).getD place default = first := by
        rw [List.getD_eq_getElem?_getD, List.getElem?_append_left bound, found]
        rfl
      have own : (before ++ second :: after).getD before.length default = second := by simp
      rw [owner, own]
      exact .clash rfl (List.mem_of_getElem? found) held.symm repeated.symm same distinct

/-- Settings that differ in the number of workers load the same contents, if their workers
can be started. -/
theorem contentsOf_workers {others : Option Nat}
    (valid : settings.validate around = .ok ())
    (started : startWorkers around settings = .ok ())
    (othersValid : IndexSettings.validate around { settings with workers := others } = .ok ())
    (othersStarted : startWorkers around { settings with workers := others } = .ok ()) :
    contentsOf around { settings with workers := others } = contentsOf around settings := by
  have same : discover around { settings with workers := others } = discover around settings := rfl
  cases found : discover around settings with
  | error error =>
      rw [contentsOf, contentsOf, valid, othersValid, same, found]
      rfl
  | ok candidates =>
      rw [contentsOf_eq_publish valid found started,
        contentsOf_eq_publish othersValid (same.trans found) othersStarted]
      rfl

/-- A load publishes what any run of its workers hands in. -/
theorem contentsOf_eq_publish_of_handsIn {workers : Nat} (working : 0 < workers)
    {arrivals : List (Nat × Outcome)} (valid : settings.validate around = .ok ())
    (found : discover around settings = .ok candidates)
    (started : startWorkers around settings = .ok ())
    (handed : Pool.HandsIn around settings workers candidates arrivals) :
    contentsOf around settings = publish settings candidates arrivals := by
  rw [contentsOf_eq_publish valid found started, publish, publish,
    collect_of_perm ((Pool.handsIn_iff working).mp handed), collect_of_perm (.refl _)]

/-- However its workers are scheduled, a load comes to an end with one outcome for each
candidate, in whatever order.  Outcomes numbered like the candidates are taken over in the
order of discovery, and what is published of those of the candidates is told from the
candidates alone. -/
theorem publish_independent_of_schedule (around : Surroundings) (settings : IndexSettings)
    (candidates : List Candidate) {workers : Nat} (working : 0 < workers) :
    (∀ pool, Pool.Reaches around settings workers (.start candidates) pool →
      pool.running.length ≤ workers ∧
        ∃ arrivals, Pool.Reaches around settings workers pool (.done arrivals)) ∧
    (∀ arrivals, Pool.HandsIn around settings workers candidates arrivals ↔
      arrivals.Perm (outcomes around settings candidates)) ∧
    (outcomes around settings candidates).map (·.1) = List.range candidates.length ∧
    (∀ numbered : List (Nat × Outcome), numbered.map (·.1) = List.range candidates.length →
      ∀ arrivals : List (Nat × Outcome), arrivals.Perm numbered →
        collect arrivals = numbered ∧
          publish settings candidates arrivals = commit settings candidates numbered) ∧
    ((∀ candidate ∈ candidates, candidate.typeIndex < settings.types.length) →
      Verdict around settings candidates
        (commit settings candidates (outcomes around settings candidates))) := by
  refine ⟨?runs, fun _ => Pool.handsIn_iff working, outcomes_numbers around settings candidates,
    ?orders, verdict_commit⟩
  case runs =>
    intro pool run
    exact ⟨((Pool.accounts_start around settings workers candidates).reaches run).bounded,
      Pool.exists_reaches_done around settings working pool⟩
  case orders =>
    intro numbered numbers arrivals arrived
    have collected := collect_eq_of_perm (numbers ▸ List.pairwise_lt_range) arrived
    exact ⟨collected, by rw [publish, collected]⟩

/-! ## Two documents with one id -/

def twinAround : Surroundings where
  files := .directory [("guide", .directory [("must", .directory [
    ("a.bhv", .file (.text "---\nid: run-tests\n---\nRun them.\n") Moment.epoch),
    ("b.bhv", .file (.text "---\nid: run-tests\n---\nRun all of them.\n") Moment.epoch)])])]
  workingDirectory := ⟨"/"⟩
  user? := none

def twinCandidates : List Candidate :=
  [⟨⟨"/guide/must/a.bhv"⟩, 0⟩, ⟨⟨"/guide/must/b.bhv"⟩, 0⟩]

theorem commit_twins : commit guideSettings twinCandidates
    (outcomes twinAround guideSettings twinCandidates) =
      .error (.duplicateId "run-tests" "/guide/must/a.bhv" "/guide/must/b.bhv") := by
  -- equality of errors is not decidable, equality of the texts in this one is
  have named : (match commit guideSettings twinCandidates
      (outcomes twinAround guideSettings twinCandidates) with
      | .error (.duplicateId id first second) =>
          (id, first, second) == ("run-tests", "/guide/must/a.bhv", "/guide/must/b.bhv")
      | _ => false) = true := by
    decide +kernel
  split at named
  · next result =>
      rw [result]
      simpa using named
  · cases named

/-- The second document is the second one in the order of discovery, though its outcome
arrives first. -/
theorem publish_independent_of_schedule_twins :
    let clash := Error.duplicateId "run-tests" "/guide/must/a.bhv" "/guide/must/b.bhv"
    Verdict twinAround guideSettings twinCandidates (.error clash) ∧
    ∃ arrivals, arrivals.map (·.1) = [1, 0] ∧
      Pool.HandsIn twinAround guideSettings 1 twinCandidates arrivals ∧
      publish guideSettings twinCandidates arrivals = .error clash := by
  obtain ⟨-, orders, numbers, publishes, verdict⟩ :=
    publish_independent_of_schedule twinAround guideSettings twinCandidates Nat.one_pos
  have reversed := List.reverse_perm (outcomes twinAround guideSettings twinCandidates)
  have published := (publishes _ numbers _ reversed).2
  rw [commit_twins] at verdict
  exact ⟨verdict (by decide), _, rfl, (orders _).mpr reversed, published.trans commit_twins⟩

end Guidebook.Index
