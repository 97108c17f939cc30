import Guidebook.Backend.Basic
import Guidebook.Index.Discovery
import Guidebook.Index.Document

/-!
# Indexes

An index serves the documents below a root.  It is loaded once: the candidates
are parsed by workers, who hand in their outcomes in any order, and the outcomes
are taken over in the order of discovery.  Two documents with one id end the load;
a document that is refused is only recorded.  A load that fails leaves the index
as it was.
-/

namespace Guidebook

/-- The counts of a load. -/
structure IndexStats where
  /-- The number of files that were found. -/
  discovered : Nat
  /-- The number of documents. -/
  indexed : Nat
  /-- The number of files that were refused. -/
  rejected : Nat
  deriving DecidableEq, Repr, Inhabited

/-- What a load publishes. -/
structure IndexContents where
  /-- The documents by their ids. -/
  entities : List (String × Entity)
  /-- The summaries of the documents, in the order of discovery. -/
  summaries : List Summary
  stats : IndexStats
  /-- The documents that were refused, in the order of discovery. -/
  rejections : List Rejection
  deriving Repr, Inhabited

namespace IndexContents

/-- The document with an id. -/
def entity? (contents : IndexContents) (id : String) : Option Entity :=
  contents.entities.lookup id

/-- The documents with the given ids, in the order in which they are first asked
for. -/
def details (contents : IndexContents) (ids : List String) : List Entity :=
  (Backend.keepFirst id [] ids).filterMap contents.entity?

end IndexContents

/-- An index with its settings, and what it holds once it is loaded. -/
structure Index where
  settings : IndexSettings
  /-- A load is on its way, or one has succeeded. -/
  claimed : Bool := false
  contents : Option IndexContents := none
  deriving Repr, Inhabited

namespace Index

/-- The index with some settings, of which nothing is read yet. -/
def fresh (settings : IndexSettings) : Index := { settings := settings }

/-- The outcome of parsing a candidate. -/
abbrev Outcome := Except DocumentError Entity

/-- Parse a candidate as a document of its type. -/
def parseCandidate (around : Surroundings) (settings : IndexSettings)
    (candidate : Candidate) : Outcome :=
  Document.load around candidate.path (settings.types.getD candidate.typeIndex default)
    settings.requireExplicitId

/-- The outcomes that workers hand in, each with the number of its candidate, in
the order of the numbers. -/
def collect (arrivals : List (Nat × Outcome)) : List (Nat × Outcome) :=
  arrivals.mergeSort fun left right => left.1 ≤ right.1

/-- Outcomes that are being taken over. -/
structure Intake where
  /-- The documents by their ids. -/
  entities : List (String × Entity) := []
  /-- The paths of the documents by their ids. -/
  owners : List (String × Path) := []
  summaries : List Summary := []
  rejections : List Rejection := []

namespace Intake

/-- Take over a document, whose id has to be new. -/
def accept (path : Path) (entity : Entity) (intake : Intake) : Except Error Intake :=
  match intake.owners.lookup entity.id with
  | some first => .error (.duplicateId entity.id first.text path.text)
  | none =>
      .ok { intake with
        entities := Keyed.insert entity.id entity intake.entities
        owners := Keyed.insert entity.id path intake.owners
        summaries := intake.summaries ++ [entity.summary] }

/-- Record the refusal of a document. -/
def refuse (path : Path) (typeName : String) (error : DocumentError) (intake : Intake) :
    Intake :=
  { intake with rejections := intake.rejections ++ [Rejection.of path typeName error] }

/-- Take over the outcome of the candidate with a number. -/
def take (settings : IndexSettings) (candidates : List Candidate) (intake : Intake)
    (numbered : Nat × Outcome) : Except Error Intake :=
  let candidate := candidates.getD numbered.1 default
  match numbered.2 with
  | .ok entity => intake.accept candidate.path entity
  | .error error =>
      .ok (intake.refuse candidate.path
        (settings.types.getD candidate.typeIndex default).name error)

/-- What is published of the outcomes of so many candidates. -/
def contents (discovered : Nat) (intake : Intake) : IndexContents where
  entities := intake.entities
  summaries := intake.summaries
  stats := ⟨discovered, intake.entities.length, intake.rejections.length⟩
  rejections := intake.rejections

end Intake

/-- Take over outcomes in order. -/
def commit (settings : IndexSettings) (candidates : List Candidate)
    (outcomes : List (Nat × Outcome)) : Except Error IndexContents := do
  let intake ← outcomes.foldlM (Intake.take settings candidates) {}
  return intake.contents candidates.length

/-- What a load publishes when the outcomes arrive in the given order. -/
def publish (settings : IndexSettings) (candidates : List Candidate)
    (arrivals : List (Nat × Outcome)) : Except Error IndexContents :=
  commit settings candidates (collect arrivals)

/-- Start the workers that parse documents. -/
def startWorkers (around : Surroundings) (settings : IndexSettings) : Except Error Unit :=
  match around.workersFault? settings.workers with
  | some fault => .error (.invalidSettings s!"cannot start parser pool: {fault}")
  | none => .ok ()

/-- The outcomes of all candidates, numbered in the order of discovery. -/
def outcomes (around : Surroundings) (settings : IndexSettings) (candidates : List Candidate) :
    List (Nat × Outcome) :=
  candidates.zipIdx.map fun (candidate, number) =>
    (number, parseCandidate around settings candidate)

/-- What an index with some settings would hold. -/
def contentsOf (around : Surroundings) (settings : IndexSettings) : Except Error IndexContents := do
  settings.validate around
  let candidates ← discover around settings
  startWorkers around settings
  publish settings candidates (outcomes around settings candidates)

/-- Once candidates are found and workers started, the rest of a load is to publish. -/
theorem contentsOf_eq_publish {around : Surroundings} {settings : IndexSettings}
    {candidates : List Candidate} (valid : settings.validate around = .ok ())
    (found : discover around settings = .ok candidates)
    (started : startWorkers around settings = .ok ()) :
    contentsOf around settings =
      publish settings candidates (outcomes around settings candidates) := by
  rw [contentsOf, valid, found, started]
  rfl

/-- Load an index that is not claimed yet; the error, if there is one, and the index
afterwards.  A load that fails gives the claim back. -/
def load (around : Surroundings) (index : Index) : Except Error Unit × Index :=
  if index.claimed then (.error .alreadyInitialized, index)
  else
    let claiming := { index with claimed := true }
    match contentsOf around index.settings with
    | .ok contents => (.ok (), { claiming with contents := some contents })
    | .error error => (.error error, { claiming with claimed := false })

/-- A claimed index is not loaded again. -/
theorem load_of_claimed (around : Surroundings) {index : Index} (claimed : index.claimed = true) :
    index.load around = (.error .alreadyInitialized, index) := by
  rw [load, if_pos claimed]

/-- A load of an unclaimed index claims it and publishes its contents. -/
theorem load_of_ok {around : Surroundings} {index : Index} {contents : IndexContents}
    (unclaimed : index.claimed = false)
    (loads : contentsOf around index.settings = .ok contents) :
    index.load around =
      (.ok (), { index with claimed := true, contents := some contents }) := by
  rw [load, loads, unclaimed]
  rfl

/-- A load of an unclaimed index that fails leaves it as it is. -/
theorem load_of_error {around : Surroundings} {index : Index} {error : Error}
    (unclaimed : index.claimed = false) (fails : contentsOf around index.settings = .error error) :
    index.load around = (.error error, index) := by
  rw [load, fails, unclaimed]
  obtain ⟨settings, claimed, contents⟩ := index
  cases unclaimed
  rfl

/-- All that a load can do: it fails and leaves the index as it is, or it claims the index
and publishes its contents. -/
theorem load_cases (around : Surroundings) (index : Index) :
    (∃ error, index.load around = (.error error, index)) ∨
    (∃ contents, index.claimed = false ∧ contentsOf around index.settings = .ok contents ∧
      index.load around =
        (.ok (), { index with claimed := true, contents := some contents })) := by
  cases claimed : index.claimed with
  | true => exact .inl ⟨_, load_of_claimed around claimed⟩
  | false =>
      cases result : contentsOf around index.settings with
      | error error => exact .inl ⟨error, load_of_error claimed result⟩
      | ok contents => exact .inr ⟨contents, rfl, rfl, load_of_ok claimed result⟩

/-- The counts of the load, once there is one. -/
def stats (index : Index) : Option IndexStats := index.contents.map (·.stats)

/-- The documents that the load refused. -/
def rejections (index : Index) : List Rejection :=
  (index.contents.map (·.rejections)).getD []

/-- The number of documents. -/
def size (index : Index) : Nat :=
  (index.contents.map (·.entities.length)).getD 0

/-- The index as a source, which fails before it is loaded. -/
def source (index : Index) : Source where
  name := index.settings.name
  summary :=
    match index.contents with
    | none => .failed [] .notInitialized
    | some contents => .complete contents.summaries
  details ids :=
    match index.contents with
    | none => .failed [] .notInitialized
    | some contents => .complete (contents.details ids)

end Index

end Guidebook
