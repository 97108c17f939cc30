import Guidebook.Index.Basic
import Mathlib.Logic.Relation

/-!
# The pool of workers

A load hands its candidates, with their numbers, to a pool of workers.  A candidate
waits until a free worker takes it up; the worker parses it and sends the outcome
under its number.  Which candidate is taken up next and which worker is done first is
left open.  The load goes on when no candidate waits or is at work, with the outcomes
in the order in which they were sent.
-/

namespace Guidebook.Index

/-- A pool of workers that is at work on numbered candidates. -/
structure Pool where
  /-- The candidates that no worker has taken up. -/
  waiting : List (Candidate × Nat)
  /-- The candidates at work, one for each busy worker. -/
  running : List (Candidate × Nat)
  /-- The outcomes that were sent, the latest at the end. -/
  arrivals : List (Nat × Outcome)

namespace Pool

/-- The pool in which all candidates wait. -/
def start (candidates : List Candidate) : Pool := ⟨candidates.zipIdx, [], []⟩

/-- The pool that has nothing left to do. -/
def done (arrivals : List (Nat × Outcome)) : Pool := ⟨[], [], arrivals⟩

variable (around : Surroundings) (settings : IndexSettings)

/-- What a worker sends for its candidate. -/
def sent (task : Candidate × Nat) : Nat × Outcome :=
  (task.2, parseCandidate around settings task.1)

/-- What can happen next in a pool of so many workers. -/
inductive Step (workers : Nat) : Pool → Pool → Prop where
  /-- A free worker takes up one of the candidates that wait. -/
  | takeUp (before : List (Candidate × Nat)) {after running : List (Candidate × Nat)}
      {task : Candidate × Nat} {arrivals : List (Nat × Outcome)}
      (free : running.length < workers) :
      Step workers ⟨before ++ task :: after, running, arrivals⟩
        ⟨before ++ after, task :: running, arrivals⟩
  /-- One of the workers is done with its candidate. -/
  | send (before : List (Candidate × Nat)) {waiting after : List (Candidate × Nat)}
      {task : Candidate × Nat} {arrivals : List (Nat × Outcome)} :
      Step workers ⟨waiting, before ++ task :: after, arrivals⟩
        ⟨waiting, before ++ after, arrivals ++ [sent around settings task]⟩

/-- What can happen in a pool of so many workers, step after step. -/
abbrev Reaches (workers : Nat) : Pool → Pool → Prop :=
  Relation.ReflTransGen (Step around settings workers)

/-- Some run of the pool from start to end sends the outcomes in the given order. -/
def HandsIn (workers : Nat) (candidates : List Candidate)
    (arrivals : List (Nat × Outcome)) : Prop :=
  Reaches around settings workers (start candidates) (done arrivals)

end Pool

end Guidebook.Index
