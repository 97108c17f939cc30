import Guidebook.Index.Session

/-!
# The life of an index

An index is loaded at most once.  Until a load succeeds it is as new, whatever
loads have failed before; once one has succeeded it stays as it is, whatever is
done with it and with the files around it.
-/

namespace Guidebook.Session

variable {settings : IndexSettings} {session : Session}

@[simp] theorem run_cons (session : Session) (operation : Operation) (rest : List Operation) :
    session.run (operation :: rest) = (session.next operation).run rest := rfl

theorem run_append (session : Session) (before after : List Operation) :
    session.run (before ++ after) = (session.run before).run after :=
  List.foldl_append

/-! ## After a load -/

/-- Nothing changes a claimed index. -/
theorem index_next_of_claimed (claimed : session.index.claimed = true)
    (operation : Operation) : (session.next operation).index = session.index := by
  cases operation with
  | load => simp only [next, Index.load_of_claimed session.around claimed]
  | _ => rfl

theorem index_run_of_claimed (claimed : session.index.claimed = true)
    (operations : List Operation) : (session.run operations).index = session.index := by
  induction operations generalizing session with
  | nil => rfl
  | cons operation rest ih =>
      have same := index_next_of_claimed claimed operation
      rw [run_cons, ih (same ▸ claimed), same]

theorem answer_load_of_claimed (claimed : session.index.claimed = true) :
    session.answer .load = .load (.error .alreadyInitialized) := by
  rw [answer, Index.load_of_claimed session.around claimed]

theorem countP_answers_of_claimed (claimed : session.index.claimed = true)
    (operations : List Operation) :
    (session.answers operations).countP Answer.isLoaded = 0 := by
  induction operations generalizing session with
  | nil => rfl
  | cons operation rest ih =>
      have unloaded : (session.answer operation).isLoaded = false := by
        cases operation with
        | load => rw [answer_load_of_claimed claimed]; rfl
        | _ => rfl
      have same := index_next_of_claimed claimed operation
      rw [answers, List.countP_cons, unloaded, ih (same ▸ claimed)]
      rfl

/-- A load that succeeds claims the index. -/
theorem claimed_next_of_isLoaded {operation : Operation}
    (loaded : (session.answer operation).isLoaded = true) :
    (session.next operation).index.claimed = true := by
  cases operation with
  | load =>
      rw [answer] at loaded
      rw [next]
      rcases Index.load_cases session.around session.index with
        ⟨error, load⟩ | ⟨contents, -, -, load⟩
      · rw [load] at loaded
        cases loaded
      · rw [load]
  | _ => cases loaded

/-- At most one load of a session succeeds. -/
theorem countP_answers_le_one (session : Session) (operations : List Operation) :
    (session.answers operations).countP Answer.isLoaded ≤ 1 := by
  induction operations generalizing session with
  | nil => exact Nat.zero_le 1
  | cons operation rest ih =>
      rw [answers, List.countP_cons]
      split
      · next loaded =>
          -- this was the one load: it leaves a claimed index to the rest
          have none := countP_answers_of_claimed (claimed_next_of_isLoaded loaded) rest
          omega
      · exact ih (session.next operation)

/-- A question to the index is answered from the index alone. -/
theorem answer_eq_of_index_eq {left right : Session} (same : left.index = right.index)
    {operation : Operation} (read : operation.isRead = true) :
    left.answer operation = right.answer operation := by
  cases operation with
  | load | write | remove | change => cases read
  | _ => simp only [answer, same]

/-! ## Before a load -/

/-- What does not load a new index leaves it as new. -/
theorem index_next_of_fresh (new : session.index = .fresh settings) {operation : Operation}
    (unloaded : (session.answer operation).isLoaded = false) :
    (session.next operation).index = .fresh settings := by
  cases operation with
  | load =>
      rw [answer] at unloaded
      rw [next]
      rcases Index.load_cases session.around session.index with
        ⟨error, load⟩ | ⟨contents, -, -, load⟩
      · rw [load]
        exact new
      · rw [load] at unloaded
        cases unloaded
  | _ => exact new

theorem eq_start_of_fresh (new : session.index = .fresh settings) :
    session = start session.around settings := by
  rw [start, ← new]

/-- As long as no load succeeds, the index is as new. -/
theorem index_run_of_fresh (new : session.index = .fresh settings) {operations : List Operation}
    (unloaded : ∀ answer ∈ session.answers operations, answer.isLoaded = false) :
    (session.run operations).index = .fresh settings := by
  induction operations generalizing session with
  | nil => exact new
  | cons operation rest ih =>
      rw [answers] at unloaded
      exact ih (index_next_of_fresh new (unloaded _ List.mem_cons_self))
        fun answer member => unloaded answer (List.mem_cons_of_mem _ member)

/-! ## The whole life -/

/-- What holds of an index whatever was done with it: it is claimed exactly when it
holds contents, and these are what some load of its settings gave. -/
structure Consistent (settings : IndexSettings) (index : Index) : Prop where
  settings_eq : index.settings = settings
  claimed_eq : index.claimed = index.contents.isSome
  loaded : ∀ contents, index.contents = some contents →
    ∃ around, Index.contentsOf around settings = .ok contents

theorem Consistent.fresh (settings : IndexSettings) : Consistent settings (.fresh settings) where
  settings_eq := rfl
  claimed_eq := rfl
  loaded _ held := by cases held

theorem Consistent.next (consistent : Consistent settings session.index)
    (operation : Operation) : Consistent settings (session.next operation).index := by
  cases operation with
  | load =>
      rw [Session.next]
      rcases Index.load_cases session.around session.index with
        ⟨error, load⟩ | ⟨contents, -, succeeds, load⟩
      · rw [load]
        exact consistent
      · rw [load]
        exact {
          settings_eq := consistent.settings_eq
          claimed_eq := rfl
          loaded := by
            rintro published ⟨⟩
            exact ⟨session.around, consistent.settings_eq ▸ succeeds⟩ }
  | _ => exact consistent

theorem Consistent.run (consistent : Consistent settings session.index)
    (operations : List Operation) : Consistent settings (session.run operations).index := by
  induction operations generalizing session with
  | nil => exact consistent
  | cons operation rest ih => exact ih (consistent.next operation)

/-- Of the loads of an index at most one succeeds.  Until then the index is as new:
requests fail, there are no counts and no refusals, and whatever follows is answered
as by a new index on the files as they are.  From then on every load is refused, and
every question is answered as it was right after the load.  At any time the index is
claimed exactly when it holds contents. -/
theorem loaded_at_most_once (around : Surroundings) (settings : IndexSettings)
    (operations : List Operation) :
    ((start around settings).answers operations).countP Answer.isLoaded ≤ 1 ∧
    ((start around settings).run operations).index.claimed =
      ((start around settings).run operations).index.contents.isSome ∧
    ((∀ answer ∈ (start around settings).answers operations, answer.isLoaded = false) →
      let now := (start around settings).run operations
      now.answer .summary = .summary (.failed [] .notInitialized) ∧
      (∀ ids, now.answer (.details ids) = .details (.failed [] .notInitialized)) ∧
      now.answer .stats = .stats none ∧ now.answer .rejections = .rejections [] ∧
      now.answer .size = .size 0 ∧
      ∀ later, now.answers later = (start now.around settings).answers later) ∧
    (∀ before after, operations = before ++ .load :: after →
      ((start around settings).run before).answer .load = .load (.ok ()) →
      let now := (start around settings).run operations
      now.answer .load = .load (.error .alreadyInitialized) ∧
      ∀ operation, operation.isRead = true →
        now.answer operation =
          ((start around settings).run (before ++ [.load])).answer operation) := by
  have consistent : Consistent settings ((start around settings).run operations).index :=
    Consistent.run (.fresh settings) operations
  refine ⟨countP_answers_le_one _ operations, consistent.claimed_eq, ?_, ?_⟩
  · intro unloaded
    have new : ((start around settings).run operations).index = .fresh settings :=
      index_run_of_fresh rfl unloaded
    have asNew := eq_start_of_fresh new
    intro now
    refine ⟨?_, fun ids => ?_, ?_, ?_, ?_, fun later => congrArg (answers · later) asNew⟩
    all_goals
      rw [show now = _ from asNew]
      rfl
  · rintro before after rfl succeeded now
    have claimed : ((start around settings).run (before ++ [.load])).index.claimed = true := by
      rw [run_append]
      exact claimed_next_of_isLoaded (by rw [succeeded]; rfl)
    have same : now.index = ((start around settings).run (before ++ [.load])).index := by
      have split : now = ((start around settings).run (before ++ [.load])).run after := by
        rw [← run_append, List.append_assoc]
        rfl
      rw [split]
      exact index_run_of_claimed claimed after
    constructor
    · exact answer_load_of_claimed (same ▸ claimed)
    · intro operation read
      exact answer_eq_of_index_eq same read

end Guidebook.Session
