import Guidebook.Proofs.DocumentRules
import Guidebook.Proofs.Publication

/-!
# Documents without a name of their own

The id and the title of a document count only if they are not blank.  A stem that takes their
place counts in any case, so a file whose name has a blank stem is published under a blank id.
This module shows that there is no other way to a blank id.
-/

namespace Guidebook

open FrontMatter

/-- There is nothing but the stem of its file by which the document could be named, and this
stem is blank. -/
structure NamedByBlankStem (settings : IndexSettings) (entity : Entity) : Prop where
  implicit : settings.requireExplicitId = false
  unnamed : ∀ id, ¬DeclaresText entity.metadata "id" id
  untitled : Untitled entity.metadata entity.kind
  stem : (Path.mk entity.resourceLocator).stem? = some entity.id
  blank : ¬Text.IsSolid entity.id

variable {around : Surroundings} {settings : IndexSettings} {path : Path} {text : String}
  {type : DocumentType} {modified : Moment} {entity : Entity}

/-- A declared id is not blank, and neither is a title in its place. -/
theorem Document.Accepts.isSolid_or_namedByBlankStem
    (accepts : Accepts path text type settings.requireExplicitId modified entity) :
    Text.IsSolid entity.id ∨ NamedByBlankStem settings entity := by
  have located : (Path.mk entity.resourceLocator) = path := by rw [accepts.resourceLocator]
  by_cases solid : Text.IsSolid entity.id
  · exact .inl solid
  · cases accepts.id with
    | declared declares => exact .inl declares.2
    | title unnamed implicit behavior declares => exact .inl declares.2
    | stem unnamed implicit untitled named =>
        exact .inr ⟨implicit, unnamed, untitled, located ▸ named, solid⟩

theorem Document.Accepts.not_isSolid_iff
    (accepts : Accepts path text type settings.requireExplicitId modified entity) :
    ¬Text.IsSolid entity.id ↔ NamedByBlankStem settings entity := by
  constructor
  · exact accepts.isSolid_or_namedByBlankStem.resolve_left
  · exact NamedByBlankStem.blank

namespace Index

variable {candidates : List Candidate}

/-- Every document keeps the rules of the type of its candidate. -/
theorem exists_accepts_of_mem_documentsOf
    (member : entity ∈ documentsOf around settings candidates) :
    ∃ candidate ∈ candidates, ∃ text modified,
      around.readFile candidate.path = .ok (text, modified) ∧
      Document.Accepts candidate.path text (settings.types.getD candidate.typeIndex default)
        settings.requireExplicitId modified entity := by
  obtain ⟨candidate, held, parsed⟩ := List.mem_filterMap.mp member
  refine ⟨candidate, held, ?_⟩
  cases read : around.readFile candidate.path with
  | error fault =>
      rw [parseCandidate, Document.load, read] at parsed
      cases parsed
  | ok file =>
      obtain ⟨text, modified⟩ := file
      rw [parseCandidate, Document.load, read] at parsed
      refine ⟨text, modified, rfl, ?_⟩
      rw [← (Document.parse_eq_iff _ _ _ _ _ _).1]
      cases result : Document.parse around.frontMatterFault candidate.path text
          (settings.types.getD candidate.typeIndex default) settings.requireExplicitId modified with
      | error error =>
          simp only [result] at parsed
          cases parsed
      | ok found =>
          simp only [result] at parsed
          cases parsed
          rfl

/-- After a load, an id is blank only where a document that declares neither an id nor, as a
behavior, a title is in a file whose name has a blank stem.  It takes settings that do not
demand an explicit id, and such a file. -/
theorem blank_only_if_stem {index after : Index} (loads : index.load around = (.ok (), after)) :
    ∃ candidates contents, discover around index.settings = .ok candidates ∧
      after.contents = some contents ∧
      (∀ id entity, contents.entities.lookup id = some entity →
        (¬Text.IsSolid id ↔ NamedByBlankStem index.settings entity)) ∧
      (∀ summary ∈ contents.summaries, ∃ entity,
        contents.entities.lookup summary.id = some entity ∧ entity.summary = summary ∧
        (¬Text.IsSolid summary.id ↔ NamedByBlankStem index.settings entity)) ∧
      ((index.settings.requireExplicitId = true ∨ ∀ candidate ∈ candidates, ∀ stem,
          candidate.path.stem? = some stem → Text.IsSolid stem) →
        (∀ id entity, contents.entities.lookup id = some entity → Text.IsSolid id) ∧
        ∀ summary ∈ contents.summaries, Text.IsSolid summary.id) := by
  rcases load_cases around index with ⟨error, load⟩ | ⟨contents, -, succeeds, load⟩
  · rw [load] at loads
    cases loads
  · rw [load] at loads
    cases loads
    obtain ⟨candidates, found, publishes⟩ := exists_publishes_of_contentsOf succeeds
    have entities (id : String) (entity : Entity)
        (held : contents.entities.lookup id = some entity) :
        ¬Text.IsSolid id ↔ NamedByBlankStem index.settings entity := by
      obtain ⟨member, rfl⟩ := (publishes.lookup_iff id entity).mp held
      obtain ⟨candidate, -, text, modified, -, accepts⟩ :=
        exists_accepts_of_mem_documentsOf member
      exact accepts.not_isSolid_iff
    have solid (other : index.settings.requireExplicitId = true ∨ ∀ candidate ∈ candidates,
        ∀ stem, candidate.path.stem? = some stem → Text.IsSolid stem) (id : String)
        (entity : Entity) (held : contents.entities.lookup id = some entity) :
        Text.IsSolid id := by
      by_contra blank
      have named := (entities id entity held).mp blank
      obtain ⟨member, rfl⟩ := (publishes.lookup_iff id entity).mp held
      obtain ⟨candidate, among, text, modified, -, accepts⟩ :=
        exists_accepts_of_mem_documentsOf member
      rcases other with explicit | stems
      · cases explicit.symm.trans named.implicit
      · have stem := named.stem
        rw [accepts.resourceLocator] at stem
        exact blank (stems candidate among _ stem)
    refine ⟨candidates, contents, found, rfl, entities, ?summaries, ?solid⟩
    case summaries =>
      intro summary member
      obtain ⟨entity, held, -, same⟩ := publishes.listed summary member
      exact ⟨entity, held, same, entities _ _ held⟩
    case solid =>
      intro other
      refine ⟨solid other, ?_⟩
      intro summary member
      obtain ⟨entity, held, -, -⟩ := publishes.listed summary member
      exact solid other _ _ held

/-! ## A file whose name is a blank with an extension -/

def blankAround : Surroundings where
  files := .directory [("guide", .directory [
    (" .rcp", .file (.text "---\n---\nKeep notes.\n") Moment.epoch),
    ("release.rcp", .file (.text "---\nid: \"  \"\n---\nTag it.\n") Moment.epoch)])]
  workingDirectory := ⟨"/"⟩
  user? := none

def implicitSettings : IndexSettings where
  root := ⟨"/guide"⟩
  types := [{ name := "recipe", glob := "*.rcp" }]
  requireExplicitId := false

def blankCandidates : List Candidate := [⟨⟨"/guide/ .rcp"⟩, 0⟩, ⟨⟨"/guide/release.rcp"⟩, 0⟩]

theorem discover_blank : discover blankAround implicitSettings = .ok blankCandidates := by
  have recipes : Discovery.filesOf blankAround ⟨"/guide"⟩ { name := "recipe", glob := "*.rcp" } =
      .ok [⟨"/guide/ .rcp"⟩, ⟨"/guide/release.rcp"⟩] :=
    filesOf_of_sorted (by rfl) (by decide +kernel)
  change Discovery.candidatesFrom blankAround ⟨"/guide"⟩ 0 [] _ = _
  simp only [implicitSettings, Discovery.candidatesFrom, recipes]
  rfl

theorem load_blank : ∃ after, (fresh implicitSettings).load blankAround = (.ok (), after) ∧
    after.source.summary =
      .complete [{ id := " ", kind := .recipe }, { id := "release", kind := .recipe }] := by
  have taken : (commit implicitSettings blankCandidates
      (outcomes blankAround implicitSettings blankCandidates)).toOption.map (·.summaries) =
        some [{ id := " ", kind := .recipe }, { id := "release", kind := .recipe }] := by
    decide +kernel
  have succeeds : contentsOf blankAround implicitSettings =
      commit implicitSettings blankCandidates
        (outcomes blankAround implicitSettings blankCandidates) := by
    rw [contentsOf_eq_publish (by rfl) discover_blank rfl, publish, collect_of_perm (.refl _)]
  cases result : commit implicitSettings blankCandidates
      (outcomes blankAround implicitSettings blankCandidates) with
  | error error =>
      rw [result] at taken
      cases taken
  | ok contents =>
      rw [result] at taken
      have summaries := Option.some.inj taken
      refine ⟨_, load_of_ok rfl (succeeds.trans result), ?_⟩
      exact congrArg Fetch.complete summaries

/-- The first document has nothing but its blank stem as an id, and the second, whose own id is
blank, has a stem that is not. -/
theorem blank_only_if_stem_recipes : ∃ after contents,
    (fresh implicitSettings).load blankAround = (.ok (), after) ∧
    after.contents = some contents ∧
    (∃ entity, contents.entities.lookup " " = some entity ∧
      NamedByBlankStem implicitSettings entity) ∧
    ∃ entity, contents.entities.lookup "release" = some entity ∧
      ¬NamedByBlankStem implicitSettings entity := by
  obtain ⟨after, loads, summaries⟩ := load_blank
  obtain ⟨candidates, contents, -, held, -, listed, -⟩ := blank_only_if_stem loads
  have same : contents.summaries =
      [{ id := " ", kind := .recipe }, { id := "release", kind := .recipe }] := by
    rw [source, held] at summaries
    exact Fetch.complete.inj summaries
  rw [same, List.forall_mem_cons, List.forall_mem_singleton] at listed
  obtain ⟨⟨first, firstHeld, -, blank⟩, second, secondHeld, -, solid⟩ := listed
  refine ⟨after, contents, loads, held, ⟨first, firstHeld, ?_⟩, second, secondHeld, ?_⟩
  · exact blank.mp (by decide)
  · exact fun named => solid.mpr named (by decide)

/-- A document is published under an id that is a blank. -/
theorem blank_id_published : ∃ after,
    (fresh implicitSettings).load blankAround = (.ok (), after) ∧
    ∃ summary ∈ after.source.summary.items, ¬Text.IsSolid summary.id := by
  obtain ⟨after, loads, summaries⟩ := load_blank
  refine ⟨after, loads, ?_⟩
  rw [summaries]
  exact ⟨_, List.mem_cons_self, by decide⟩

end Index

end Guidebook
