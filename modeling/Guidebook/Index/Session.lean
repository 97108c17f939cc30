import Guidebook.Index.Basic

/-!
# Sessions with an index

A session is an index with the files around it.  An operation loads the index, asks
it something or changes what is around it; it gives an answer and leaves a session.
-/

namespace Guidebook

/-- An index and what is around it. -/
structure Session where
  around : Surroundings
  index : Index

namespace Session

/-- An operation in a session. -/
inductive Operation where
  | load
  | summary
  | details (ids : List String)
  | stats
  | rejections
  | size
  /-- Put a file or a directory at the end of names. -/
  | write (names : List String) (tree : FileTree)
  /-- Take away what stands at the end of names. -/
  | remove (names : List String)
  /-- Change anything else around the index. -/
  | change (around : Surroundings)

/-- The operation asks the index something. -/
def Operation.isRead : Operation → Bool
  | .summary | .details _ | .stats | .rejections | .size => true
  | _ => false

/-- The answer to an operation. -/
inductive Answer where
  | load (outcome : Except Error Unit)
  | summary (summaries : Fetch Summary)
  | details (entities : Fetch Entity)
  | stats (stats : Option IndexStats)
  | rejections (rejections : List Rejection)
  | size (size : Nat)
  | done

/-- The answer is that of a load that succeeded. -/
def Answer.isLoaded : Answer → Bool
  | .load outcome => outcome.isOk
  | _ => false

/-- The session with an index of which nothing is read yet. -/
def start (around : Surroundings) (settings : IndexSettings) : Session :=
  ⟨around, .fresh settings⟩

/-- What an operation answers. -/
def answer (session : Session) : Operation → Answer
  | .load => .load (session.index.load session.around).1
  | .summary => .summary session.index.source.summary
  | .details ids => .details (session.index.source.details ids)
  | .stats => .stats session.index.stats
  | .rejections => .rejections session.index.rejections
  | .size => .size session.index.size
  | .write .. | .remove _ | .change _ => .done

/-- What an operation leaves. -/
def next (session : Session) : Operation → Session
  | .load => { session with index := (session.index.load session.around).2 }
  | .write names tree =>
      { session with
        around := { session.around with files := tree.write names session.around.files } }
  | .remove names =>
      { session with
        around := { session.around with files := session.around.files.remove names } }
  | .change around => { session with around := around }
  | .summary | .details _ | .stats | .rejections | .size => session

/-- What operations leave, one after the other. -/
def run (session : Session) (operations : List Operation) : Session :=
  operations.foldl next session

/-- What operations answer, one after the other. -/
def answers (session : Session) : (operations : List Operation) → List Answer
  | [] => []
  | operation :: rest => session.answer operation :: (session.next operation).answers rest

end Session

end Guidebook
