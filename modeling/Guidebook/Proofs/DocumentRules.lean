import Guidebook.Proofs.FrontMatter

/-!
# The rules of a document

A document keeps five rules, or it is refused by the first that it breaks: its text has a
front matter, the front matter is a mapping, the required fields are there, an id can be found,
and so can the tier of a behavior.  For each rule there are two relations, one that says what a
document gives that keeps the rule, and one that says how a document breaks it.
-/

namespace Guidebook

/-- Two relations say what an attempt ends with if they are right about it and one of them
holds. -/
theorem eq_ok_iff_and_eq_error_iff {ε α : Type} {attempt : Except ε α} {gives : α → Prop}
    {fails : ε → Prop} (succeeds : ∀ value, gives value → attempt = .ok value)
    (breaks : ∀ error, fails error → attempt = .error error)
    (total : (∃ value, gives value) ∨ ∃ error, fails error) :
    (∀ value, attempt = .ok value ↔ gives value) ∧
      ∀ error, attempt = .error error ↔ fails error := by
  rcases total with ⟨value, given⟩ | ⟨error, failed⟩
  · have result := succeeds value given
    constructor
    · intro other
      refine ⟨fun same => ?_, succeeds other⟩
      cases result.symm.trans same
      exact given
    · intro error
      refine ⟨fun same => ?_, breaks error⟩
      cases result.symm.trans same
  · have result := breaks error failed
    constructor
    · intro value
      refine ⟨fun same => ?_, succeeds value⟩
      cases result.symm.trans same
    · intro other
      refine ⟨fun same => ?_, breaks other⟩
      cases result.symm.trans same
      exact failed

namespace Text

/-- The text has a character that is not blank. -/
def IsSolid (text : String) : Prop := ∃ c ∈ text.toList, isBlank c = false

theorem isSolid_iff {text : String} : IsSolid text ↔ allBlank text.toList = false := by
  simp [IsSolid, allBlank]

instance (text : String) : Decidable (IsSolid text) := decidable_of_iff _ isSolid_iff.symm

end Text

namespace Path

/-- A component that is a name is not empty. -/
theorem name_ne_empty {path : Path} {text : String}
    (member : .name text ∈ path.components) : text ≠ "" := by
  rw [components, List.mem_append] at member
  rcases member with start | piece
  · split at start
    · simp at start
    · split at start <;> simp at start
  · obtain ⟨piece, -, added⟩ := List.mem_filterMap.mp piece
    rw [componentOf?] at added
    split at added
    · cases added
    · next loud =>
        split at added
        · cases added
        · cases added
          rw [not_or] at loud
          exact fun empty => loud.1 (by simpa using congrArg String.toList empty)

/-- The stem of a name keeps some of it. -/
theorem nameStem_ne_empty {name : String} (solid : name ≠ "") : nameStem name ≠ "" := by
  rw [nameStem]
  split
  · exact solid
  · next kept _ =>
      intro empty
      apply kept
      simpa using congrArg String.toList empty
  · exact solid

theorem stem?_ne_empty {path : Path} {stem : String} (named : path.stem? = some stem) :
    stem ≠ "" := by
  obtain ⟨name, found, rfl⟩ := Option.map_eq_some_iff.mp named
  apply nameStem_ne_empty
  rw [fileName?] at found
  split at found
  · next text last =>
      cases found
      exact name_ne_empty (List.mem_of_getLast? last)
  · cases found

/-- No stem is left out for being empty. -/
theorem filter_stem? (path : Path) : path.stem?.filter (!·.isEmpty) = path.stem? := by
  cases named : path.stem? with
  | none => rfl
  | some stem => simp [stem?_ne_empty named]

end Path

theorem Kind.isBehavior_iff {kind : Kind} : kind.isBehavior = true ↔ kind = .behavior := by
  cases kind <;> simp [isBehavior]

theorem Kind.isBehavior_ofName (name : String) :
    (Kind.ofName name).isBehavior = decide (name = "behavior") := by
  rw [Kind.ofName]
  split
  · next same => simp [same, Kind.isBehavior]
  · next other => split <;> simp [other, Kind.isBehavior]

theorem Tier.ofName?_eq_some_iff {name : String} {tier : Tier} :
    Tier.ofName? name = some tier ↔ name = tier.name := by
  constructor
  · intro named
    rw [Tier.ofName?] at named
    split at named
    · cases named
      assumption
    · split at named
      · cases named
        assumption
      · cases named
  · rintro rfl
    exact Tier.ofName?_name tier

namespace FrontMatter

/-! ## What a front matter declares -/

variable {wording : String → String} {yaml : List Char} {metadata : Metadata}
  {error : DocumentError}

/-- The fields that a front matter declares: none if it is blank or null, and else those of a
mapping. -/
inductive Declares (yaml : List Char) : Metadata → Prop where
  | blank (blank : Text.allBlank yaml = true) : Declares yaml []
  | null (solid : Text.allBlank yaml = false)
      (read : Yaml.Value.parse? (String.ofList yaml) = some .null) : Declares yaml []
  | mapping {value : Yaml.Value} {entries : List (Yaml.Value × Yaml.Value)}
      {fields : List (String × Json)} (solid : Text.allBlank yaml = false)
      (read : Yaml.Value.parse? (String.ofList yaml) = some value)
      (shape : value.untagged = .mapping entries)
      (named : Yaml.Value.fieldsOf? entries = some fields) : Declares yaml (Keyed.ofList fields)

/-- Why a front matter declares no fields. -/
inductive Undeclared (wording : String → String) (yaml : List Char) : DocumentError → Prop where
  | unread (solid : Text.allBlank yaml = false)
      (unread : Yaml.Value.parse? (String.ofList yaml) = none) :
      Undeclared wording yaml (.yaml (wording (String.ofList yaml)))
  /-- A key of the mapping is no text, or one of its values has no written form. -/
  | unnamed {value : Yaml.Value} {entries : List (Yaml.Value × Yaml.Value)}
      (solid : Text.allBlank yaml = false)
      (read : Yaml.Value.parse? (String.ofList yaml) = some value)
      (shape : value.untagged = .mapping entries)
      (unnamed : Yaml.Value.fieldsOf? entries = none) :
      Undeclared wording yaml (.yaml (wording (String.ofList yaml)))
  | other {value : Yaml.Value} (solid : Text.allBlank yaml = false)
      (read : Yaml.Value.parse? (String.ofList yaml) = some value) (given : value ≠ .null)
      (shape : ∀ entries, value.untagged ≠ .mapping entries) :
      Undeclared wording yaml (.notMapping (describe value))

theorem Declares.parse_eq (declares : Declares yaml metadata) :
    parse wording yaml = .ok metadata := by
  cases declares with
  | blank blank => rw [parse, if_pos blank]
  | null solid read =>
      rw [parse, if_neg (Bool.not_eq_true _ ▸ solid), read]
      rfl
  | mapping solid read shape named =>
      rw [parse, if_neg (Bool.not_eq_true _ ▸ solid), read]
      simp only [ofValue, shape, named]

theorem Undeclared.parse_eq (undeclared : Undeclared wording yaml error) :
    parse wording yaml = .error error := by
  cases undeclared with
  | unread solid unread => rw [parse, if_neg (Bool.not_eq_true _ ▸ solid), unread]
  | unnamed solid read shape unnamed =>
      rw [parse, if_neg (Bool.not_eq_true _ ▸ solid), read]
      simp only [ofValue, shape, unnamed]
  | @other value solid read given shape =>
      rw [parse, if_neg (Bool.not_eq_true _ ▸ solid), read]
      change ofValue _ value = _
      unfold ofValue
      split
      · next entries mapping => exact absurd mapping (shape entries)
      · exact absurd rfl given
      · rfl

theorem declares_or_undeclared (wording : String → String) (yaml : List Char) :
    (∃ metadata, Declares yaml metadata) ∨ ∃ error, Undeclared wording yaml error := by
  cases solid : Text.allBlank yaml with
  | true => exact .inl ⟨_, .blank solid⟩
  | false =>
      cases read : Yaml.Value.parse? (String.ofList yaml) with
      | none => exact .inr ⟨_, .unread solid read⟩
      | some value =>
          by_cases shape : ∃ entries, value.untagged = .mapping entries
          · obtain ⟨entries, shape⟩ := shape
            cases named : Yaml.Value.fieldsOf? entries with
            | none => exact .inr ⟨_, .unnamed solid read shape named⟩
            | some fields => exact .inl ⟨_, .mapping solid read shape named⟩
          · by_cases given : value = .null
            · subst given
              exact .inl ⟨_, .null solid read⟩
            · exact .inr ⟨_, .other solid read given (not_exists.mp shape)⟩

/-! ## Where the id of a document is from -/

variable {key text id : String} {kind : Kind} {path : Path} {requireExplicitId : Bool}

/-- A field is a text that is not blank. -/
def DeclaresText (metadata : Metadata) (key text : String) : Prop :=
  Json.lookup? key metadata = some (.str text) ∧ Text.IsSolid text

theorem solidText?_eq_some_iff :
    solidText? metadata key = some text ↔ DeclaresText metadata key text := by
  rw [DeclaresText, Text.isSolid_iff, solidText?]
  cases Json.lookup? key metadata with
  | none => simp
  | some value =>
      cases value with
      | str content =>
          simp only [Option.bind_some, Json.text?, Option.bind_eq_bind,
            Option.ite_none_left_eq_some, Option.some.injEq, Json.str.injEq, Option.pure_def, Bool.not_eq_true]
          constructor
          · rintro ⟨solid, rfl⟩
            exact ⟨rfl, solid⟩
          · rintro ⟨rfl, solid⟩
            exact ⟨solid, rfl⟩
      | _ => simp [Json.text?]

theorem solidText?_eq_none_iff :
    solidText? metadata key = none ↔ ∀ text, ¬DeclaresText metadata key text := by
  simp only [Option.eq_none_iff_forall_ne_some, ne_eq, solidText?_eq_some_iff]

/-- No title can stand in for an id: the document is no behavior, or it has no title. -/
def Untitled (metadata : Metadata) (kind : Kind) : Prop :=
  kind = .behavior → ∀ title, ¬DeclaresText metadata "title" title

/-- The id of a document: its own, or, unless it has to give one itself, the title of a
behavior, and else the stem of the file's name. -/
inductive IdOf (metadata : Metadata) (kind : Kind) (path : Path) (requireExplicitId : Bool) :
    String → Prop where
  | declared {id : String} (declares : DeclaresText metadata "id" id) :
      IdOf metadata kind path requireExplicitId id
  | title {title : String} (unnamed : ∀ id, ¬DeclaresText metadata "id" id)
      (implicit : requireExplicitId = false) (behavior : kind = .behavior)
      (declares : DeclaresText metadata "title" title) :
      IdOf metadata kind path requireExplicitId title
  | stem {stem : String} (unnamed : ∀ id, ¬DeclaresText metadata "id" id)
      (implicit : requireExplicitId = false) (untitled : Untitled metadata kind)
      (named : path.stem? = some stem) : IdOf metadata kind path requireExplicitId stem

/-- Why no id can be found. -/
inductive Unidentified (metadata : Metadata) (kind : Kind) (path : Path)
    (requireExplicitId : Bool) : DocumentError → Prop where
  | explicit (unnamed : ∀ id, ¬DeclaresText metadata "id" id)
      (explicit : requireExplicitId = true) :
      Unidentified metadata kind path requireExplicitId
        (.missingId "'id' must be a non-empty string")
  | nameless (unnamed : ∀ id, ¬DeclaresText metadata "id" id)
      (implicit : requireExplicitId = false) (untitled : Untitled metadata kind)
      (nameless : path.stem? = none) :
      Unidentified metadata kind path requireExplicitId
        (.missingId "cannot derive an id from the file name")

theorem title_eq_none (untitled : Untitled metadata kind) :
    (if kind.isBehavior then solidText? metadata "title" else none) = none := by
  split
  · next behavior => exact solidText?_eq_none_iff.mpr (untitled (Kind.isBehavior_iff.mp behavior))
  · rfl

theorem IdOf.resolveId_eq (given : IdOf metadata kind path requireExplicitId id) :
    resolveId metadata kind path requireExplicitId = .ok id := by
  cases given with
  | declared declares => rw [resolveId, solidText?_eq_some_iff.mpr declares]
  | title unnamed implicit behavior declares =>
      subst implicit behavior
      have titled := solidText?_eq_some_iff.mpr declares
      rw [resolveId, solidText?_eq_none_iff.mpr unnamed]
      simp [Kind.isBehavior, titled]
  | stem unnamed implicit untitled named =>
      subst implicit
      rw [resolveId, solidText?_eq_none_iff.mpr unnamed, title_eq_none untitled,
        Path.filter_stem?, named]
      rfl

theorem Unidentified.resolveId_eq
    (unidentified : Unidentified metadata kind path requireExplicitId error) :
    resolveId metadata kind path requireExplicitId = .error error := by
  cases unidentified with
  | explicit unnamed explicit =>
      subst explicit
      rw [resolveId, solidText?_eq_none_iff.mpr unnamed]
      rfl
  | nameless unnamed implicit untitled nameless =>
      subst implicit
      rw [resolveId, solidText?_eq_none_iff.mpr unnamed, title_eq_none untitled,
        Path.filter_stem?, nameless]
      rfl

theorem identified_or_unidentified (metadata : Metadata) (kind : Kind) (path : Path)
    (requireExplicitId : Bool) :
    (∃ id, IdOf metadata kind path requireExplicitId id) ∨
      ∃ error, Unidentified metadata kind path requireExplicitId error := by
  by_cases named : ∃ id, DeclaresText metadata "id" id
  · obtain ⟨id, declares⟩ := named
    exact .inl ⟨id, .declared declares⟩
  · have unnamed := not_exists.mp named
    cases requireExplicitId with
    | true => exact .inr ⟨_, .explicit unnamed rfl⟩
    | false =>
        by_cases titled : kind = .behavior ∧ ∃ title, DeclaresText metadata "title" title
        · obtain ⟨behavior, title, declares⟩ := titled
          exact .inl ⟨title, .title unnamed rfl behavior declares⟩
        · have untitled : Untitled metadata kind := by
            intro behavior title declares
            exact titled ⟨behavior, title, declares⟩
          cases stem : path.stem? with
          | none => exact .inr ⟨_, .nameless unnamed rfl untitled stem⟩
          | some stem' => exact .inl ⟨stem', .stem unnamed rfl untitled stem⟩

/-! ## Where the tier of a behavior is from -/

variable {tier : Tier}

/-- No tier is declared: there is no such field, or it is null. -/
def Tierless (metadata : Metadata) : Prop :=
  Json.lookup? "tier" metadata = none ∨ Json.lookup? "tier" metadata = some .null

/-- The tier of a behavior: the one that it declares by name, or else the one that its
directory is named after. -/
inductive TierOf (metadata : Metadata) (path : Path) : Tier → Prop where
  | declared {tier : Tier} (declares : Json.lookup? "tier" metadata = some (.str tier.name)) :
      TierOf metadata path tier
  | directory {tier : Tier} {parent : Path} (tierless : Tierless metadata)
      (below : path.parent? = some parent) (named : parent.fileName? = some tier.name) :
      TierOf metadata path tier

/-- Why no tier can be found.  A tier that is declared wrongly is not made up for by the
directory. -/
inductive Untiered (metadata : Metadata) (path : Path) : DocumentError → Prop where
  | unknown {name : String} (declares : Json.lookup? "tier" metadata = some (.str name))
      (unknown : ∀ tier : Tier, name ≠ tier.name) :
      Untiered metadata path (.invalidTier s!"'{name}' is not 'must' or 'should'")
  | noText {value : Json} (declares : Json.lookup? "tier" metadata = some value)
      (given : value ≠ .null) (noText : ∀ name, value ≠ .str name) :
      Untiered metadata path (.invalidTier s!"expected a string, found {value.compact}")
  | directory (tierless : Tierless metadata)
      (unnamed : ∀ parent, path.parent? = some parent →
        ∀ tier : Tier, parent.fileName? ≠ some tier.name) :
      Untiered metadata path (.invalidTier
        "no 'tier' field and the parent directory is neither 'must' nor 'should'")

theorem tierOfDirectory?_eq_some_iff : tierOfDirectory? path = some tier ↔
    ∃ parent, path.parent? = some parent ∧ parent.fileName? = some tier.name := by
  simp only [tierOfDirectory?, Option.bind_eq_bind, Option.bind_eq_some_iff,
    Tier.ofName?_eq_some_iff, exists_eq_right]

theorem resolveTier_of_tierless (tierless : Tierless metadata) (path : Path) :
    resolveTier metadata path =
      match tierOfDirectory? path with
      | some tier => .ok tier
      | none => .error <| .invalidTier
          "no 'tier' field and the parent directory is neither 'must' nor 'should'" := by
  rcases tierless with absent | null
  · rewrite [resolveTier, absent]
    rfl
  · rewrite [resolveTier, null]
    rfl

theorem TierOf.resolveTier_eq (given : TierOf metadata path tier) :
    resolveTier metadata path = .ok tier := by
  cases given with
  | declared declares =>
      rw [resolveTier, declares]
      simp only [Tier.ofName?_name]
  | directory tierless below named =>
      rw [resolveTier_of_tierless tierless,
        tierOfDirectory?_eq_some_iff.mpr ⟨_, below, named⟩]

theorem Untiered.resolveTier_eq (untiered : Untiered metadata path error) :
    resolveTier metadata path = .error error := by
  cases untiered with
  | @unknown name declares unknown =>
      have unnamed : Tier.ofName? name = none := by
        rw [Option.eq_none_iff_forall_ne_some]
        intro tier named
        exact unknown tier (Tier.ofName?_eq_some_iff.mp named)
      rw [resolveTier, declares]
      simp only [unnamed]
  | @noText value declares given noText =>
      rw [resolveTier, declares]
      cases value with
      | null => exact absurd rfl given
      | str name => exact absurd rfl (noText name)
      | _ => rfl
  | directory tierless unnamed =>
      have missing : tierOfDirectory? path = none := by
        rw [Option.eq_none_iff_forall_ne_some]
        intro tier found
        obtain ⟨parent, below, named⟩ := tierOfDirectory?_eq_some_iff.mp found
        exact unnamed parent below tier named
      rw [resolveTier_of_tierless tierless, missing]

example : resolveTier [("tier", .str "shall")] ⟨"/guide/must/review.bhv"⟩ =
    .error (.invalidTier "'shall' is not 'must' or 'should'") := by rfl

theorem tiered_or_untiered (metadata : Metadata) (path : Path) :
    (∃ tier, TierOf metadata path tier) ∨ ∃ error, Untiered metadata path error := by
  by_cases tierless : Tierless metadata
  · cases found : tierOfDirectory? path with
    | none =>
        refine .inr ⟨_, .directory tierless ?_⟩
        intro parent below tier named
        have other := tierOfDirectory?_eq_some_iff.mpr ⟨parent, below, named⟩
        cases found.symm.trans other
    | some tier =>
        obtain ⟨parent, below, named⟩ := tierOfDirectory?_eq_some_iff.mp found
        exact .inl ⟨tier, .directory tierless below named⟩
  · rw [Tierless, not_or] at tierless
    obtain ⟨value, declares⟩ := Option.ne_none_iff_exists'.mp tierless.1
    have given : value ≠ .null := by
      rintro rfl
      exact tierless.2 declares
    by_cases text : ∃ name, value = .str name
    · obtain ⟨name, rfl⟩ := text
      by_cases known : ∃ tier : Tier, name = tier.name
      · obtain ⟨tier, rfl⟩ := known
        exact .inl ⟨tier, .declared declares⟩
      · exact .inr ⟨_, .unknown declares (not_exists.mp known)⟩
    · exact .inr ⟨_, .noText declares given (not_exists.mp text)⟩

end FrontMatter

/-! ## Documents -/

namespace Document

open FrontMatter

variable {wording : String → String} {path : Path} {text : String} {type : DocumentType}
  {requireExplicitId : Bool} {modified : Moment} {entity : Entity} {error : DocumentError}
  {metadata : Metadata} {before yaml rest : List Char}

/-- The fields that a type requires are there. -/
def HasFields (type : DocumentType) (metadata : Metadata) : Prop :=
  ∀ field ∈ type.requiredFields, field ∈ metadata.map (·.1)

/-- The entity that a document gives which keeps all rules. -/
structure Accepts (path : Path) (text : String) (type : DocumentType) (requireExplicitId : Bool)
    (modified : Moment) (entity : Entity) : Prop where
  parts : ∃ before yaml rest, Parts text.toList before yaml rest ∧
    Declares yaml entity.metadata ∧ entity.body = String.ofList (Text.trim rest)
  complete : HasFields type entity.metadata
  kind : entity.kind = Kind.ofName type.name
  id : IdOf entity.metadata entity.kind path requireExplicitId entity.id
  tiered_iff : entity.tier.isSome ↔ type.name = "behavior"
  tier : ∀ tier, entity.tier = some tier → TierOf entity.metadata path tier
  resourceLocator : entity.resourceLocator = path.text
  lastUpdated : entity.lastUpdated = modified
  unstamped : entity.originatingBackend = none

/-- Why a document is refused: it breaks a rule, and keeps those before. -/
inductive Refuses (wording : String → String) (path : Path) (text : String)
    (type : DocumentType) (requireExplicitId : Bool) : DocumentError → Prop where
  | uncut (uncut : ¬∃ before yaml rest, Parts text.toList before yaml rest) :
      Refuses wording path text type requireExplicitId .missingFrontMatter
  | undeclared {before yaml rest : List Char} {error : DocumentError}
      (parts : Parts text.toList before yaml rest) (undeclared : Undeclared wording yaml error) :
      Refuses wording path text type requireExplicitId error
  | incomplete {before yaml rest : List Char} {metadata : Metadata} {earlier later : List String}
      {field : String} (parts : Parts text.toList before yaml rest)
      (declares : Declares yaml metadata)
      (required : type.requiredFields = earlier ++ field :: later)
      (present : ∀ other ∈ earlier, other ∈ metadata.map (·.1))
      (absent : field ∉ metadata.map (·.1)) :
      Refuses wording path text type requireExplicitId (.missingField field)
  | unidentified {before yaml rest : List Char} {metadata : Metadata} {error : DocumentError}
      (parts : Parts text.toList before yaml rest) (declares : Declares yaml metadata)
      (complete : HasFields type metadata)
      (unidentified :
        Unidentified metadata (Kind.ofName type.name) path requireExplicitId error) :
      Refuses wording path text type requireExplicitId error
  | untiered {before yaml rest : List Char} {metadata : Metadata} {id : String}
      {error : DocumentError} (parts : Parts text.toList before yaml rest)
      (declares : Declares yaml metadata) (complete : HasFields type metadata)
      (identified : IdOf metadata (Kind.ofName type.name) path requireExplicitId id)
      (behavior : type.name = "behavior") (untiered : Untiered metadata path error) :
      Refuses wording path text type requireExplicitId error

theorem isNone_lookup?_iff (field : String) (metadata : Metadata) :
    (Json.lookup? field metadata).isNone = true ↔ field ∉ metadata.map (·.1) := by
  rw [← Keyed.lookup_isSome_iff_mem, Json.lookup?, Option.not_isSome_iff_eq_none,
    Option.isNone_iff_eq_none]

theorem hasFields_iff : HasFields type metadata ↔
    (type.requiredFields.find? fun field => (Json.lookup? field metadata).isNone) = none := by
  simp only [HasFields, List.find?_eq_none, isNone_lookup?_iff, Classical.not_not]

/-- The field that is reported is the first that is absent. -/
theorem find?_absent_eq_some_iff {field : String} :
    (type.requiredFields.find? fun field => (Json.lookup? field metadata).isNone) = some field ↔
      ∃ earlier later, type.requiredFields = earlier ++ field :: later ∧
        (∀ other ∈ earlier, other ∈ metadata.map (·.1)) ∧ field ∉ metadata.map (·.1) := by
  have present (other : String) :
      (!(Json.lookup? other metadata).isNone) = true ↔ other ∈ metadata.map (·.1) := by
    rw [Bool.not_eq_true', ← Bool.not_eq_true, isNone_lookup?_iff, Classical.not_not]
  simp only [List.find?_eq_some_iff_append, isNone_lookup?_iff, present]
  constructor
  · rintro ⟨absent, earlier, later, required, there⟩
    exact ⟨earlier, later, required, there, absent⟩
  · rintro ⟨earlier, later, required, there, absent⟩
    exact ⟨absent, earlier, later, required, there⟩

theorem parse_of_absent (parts : Parts text.toList before yaml rest)
    (declares : Declares yaml metadata) {field : String}
    (absent : (type.requiredFields.find? fun field => (Json.lookup? field metadata).isNone) =
      some field) :
    parse wording path text type requireExplicitId modified = .error (.missingField field) := by
  rw [parse, split?_eq_some_iff.mpr ⟨before, rest, parts, rfl⟩]
  dsimp only
  rw [declares.parse_eq]
  simp only [bind, Except.bind, absent]
  rfl

/-- A document with the required fields is told by its id and its tier. -/
theorem parse_of_hasFields (parts : Parts text.toList before yaml rest)
    (declares : Declares yaml metadata) (complete : HasFields type metadata) :
    parse wording path text type requireExplicitId modified =
      resolveId metadata (Kind.ofName type.name) path requireExplicitId >>= fun id =>
        (if type.name = "behavior" then (resolveTier metadata path).map some else .ok none) >>=
          fun tier => .ok {
            id, kind := Kind.ofName type.name, tier, metadata
            body := String.ofList (Text.trim rest)
            resourceLocator := path.text
            lastUpdated := modified } := by
  rw [parse, split?_eq_some_iff.mpr ⟨before, rest, parts, rfl⟩]
  dsimp only
  rw [declares.parse_eq]
  simp only [bind, Except.bind, hasFields_iff.mp complete, Kind.isBehavior_ofName]
  by_cases behavior : type.name = "behavior" <;> simp [behavior] <;> rfl

theorem Accepts.parse_eq (accepts : Accepts path text type requireExplicitId modified entity) :
    parse wording path text type requireExplicitId modified = .ok entity := by
  obtain ⟨id, kind, given, body, locator, metadata, updated, backend⟩ := entity
  obtain ⟨⟨before, yaml, rest, parts, declares, sameBody⟩, complete, sameKind, identified, tiered,
    tier, sameLocator, sameTime, unstamped⟩ := accepts
  dsimp only at *
  subst sameBody sameKind sameLocator sameTime unstamped
  rw [parse_of_hasFields parts declares complete, identified.resolveId_eq]
  cases given with
  | none =>
      have other : type.name ≠ "behavior" := by simpa using tiered
      rw [if_neg other]
      rfl
  | some chosen =>
      rw [if_pos (tiered.mp rfl), (tier chosen rfl).resolveTier_eq]
      rfl

theorem Refuses.parse_eq (refuses : Refuses wording path text type requireExplicitId error) :
    parse wording path text type requireExplicitId modified = .error error := by
  cases refuses with
  | uncut uncut =>
      have missing : split? text.toList = none := by
        rw [Option.eq_none_iff_forall_ne_some]
        rintro ⟨yaml, body⟩ found
        obtain ⟨before, rest, parts, -⟩ := split?_eq_some_iff.mp found
        exact uncut ⟨before, yaml, rest, parts⟩
      rw [parse, missing]
      rfl
  | @undeclared before yaml rest error parts undeclared =>
      rw [parse, split?_eq_some_iff.mpr ⟨before, rest, parts, rfl⟩]
      dsimp only
      rw [undeclared.parse_eq]
      rfl
  | incomplete parts declares required present absent =>
      exact parse_of_absent parts declares
        (find?_absent_eq_some_iff.mpr ⟨_, _, required, present, absent⟩)
  | unidentified parts declares complete unidentified =>
      rw [parse_of_hasFields parts declares complete, unidentified.resolveId_eq]
      rfl
  | untiered parts declares complete identified behavior untiered =>
      rw [parse_of_hasFields parts declares complete, identified.resolveId_eq, if_pos behavior,
        untiered.resolveTier_eq]
      rfl

/-- What a document gives once it keeps all rules. -/
theorem exists_accepts (parts : Parts text.toList before yaml rest)
    (declares : Declares yaml metadata) (complete : HasFields type metadata) {id : String}
    (identified : IdOf metadata (Kind.ofName type.name) path requireExplicitId id)
    (tiered : type.name = "behavior" → ∃ tier, TierOf metadata path tier) (modified : Moment) :
    ∃ entity, Accepts path text type requireExplicitId modified entity := by
  by_cases behavior : type.name = "behavior"
  · obtain ⟨tier, given⟩ := tiered behavior
    refine ⟨⟨id, _, some tier, _, _, metadata, _, none⟩, ⟨_, _, _, parts, declares, rfl⟩, complete,
      rfl, identified, by simpa using behavior, ?_, rfl, rfl, rfl⟩
    intro other same
    cases same
    exact given
  · exact ⟨⟨id, _, none, _, _, metadata, _, none⟩, ⟨_, _, _, parts, declares, rfl⟩, complete, rfl,
      identified, by simpa using behavior, nofun, rfl, rfl, rfl⟩

/-- A document keeps all rules, or there is a first that it breaks. -/
theorem accepts_or_refuses (wording : String → String) (path : Path) (text : String)
    (type : DocumentType) (requireExplicitId : Bool) (modified : Moment) :
    (∃ entity, Accepts path text type requireExplicitId modified entity) ∨
      ∃ error, Refuses wording path text type requireExplicitId error := by
  by_cases cut : ∃ before yaml rest, Parts text.toList before yaml rest
  · obtain ⟨before, yaml, rest, parts⟩ := cut
    rcases declares_or_undeclared wording yaml with ⟨metadata, declares⟩ | ⟨error, undeclared⟩
    · by_cases complete : HasFields type metadata
      · rcases identified_or_unidentified metadata (Kind.ofName type.name) path
          requireExplicitId with ⟨id, identified⟩ | ⟨error, unidentified⟩
        · rcases tiered_or_untiered metadata path with ⟨tier, tiered⟩ | ⟨error, untiered⟩
          · exact .inl (exists_accepts parts declares complete identified
              (fun _ => ⟨tier, tiered⟩) modified)
          · by_cases behavior : type.name = "behavior"
            · exact .inr ⟨error, .untiered parts declares complete identified behavior untiered⟩
            · exact .inl (exists_accepts parts declares complete identified
                (fun same => absurd same behavior) modified)
        · exact .inr ⟨error, .unidentified parts declares complete unidentified⟩
      · rw [hasFields_iff, ← ne_eq, Option.ne_none_iff_exists'] at complete
        obtain ⟨field, found⟩ := complete
        obtain ⟨earlier, later, required, present, absent⟩ := find?_absent_eq_some_iff.mp found
        exact .inr ⟨_, .incomplete parts declares required present absent⟩
    · exact .inr ⟨error, .undeclared parts undeclared⟩
  · exact .inr ⟨_, .uncut cut⟩

theorem parse_eq_iff (wording : String → String) (path : Path) (text : String)
    (type : DocumentType) (requireExplicitId : Bool) (modified : Moment) :
    (∀ entity, parse wording path text type requireExplicitId modified = .ok entity ↔
      Accepts path text type requireExplicitId modified entity) ∧
    ∀ error, parse wording path text type requireExplicitId modified = .error error ↔
      Refuses wording path text type requireExplicitId error :=
  eq_ok_iff_and_eq_error_iff (fun _ => Accepts.parse_eq) (fun _ => Refuses.parse_eq)
    (accepts_or_refuses wording path text type requireExplicitId modified)

/-- A document is accepted exactly if it keeps the rules, with the entity that they give, and
is refused for the first rule that it breaks. -/
theorem decided_by_rules (wording : String → String) (path : Path) (text : String)
    (type : DocumentType) (requireExplicitId : Bool) (modified : Moment) :
    ((∃ entity, parse wording path text type requireExplicitId modified = .ok entity) ↔
      ∃ before yaml rest metadata, Parts text.toList before yaml rest ∧
        Declares yaml metadata ∧ HasFields type metadata ∧
        (∃ id, IdOf metadata (Kind.ofName type.name) path requireExplicitId id) ∧
        (type.name = "behavior" → ∃ tier, TierOf metadata path tier)) ∧
    (∀ entity, parse wording path text type requireExplicitId modified = .ok entity ↔
      Accepts path text type requireExplicitId modified entity) ∧
    ∀ error, parse wording path text type requireExplicitId modified = .error error ↔
      Refuses wording path text type requireExplicitId error := by
  have verdict := parse_eq_iff wording path text type requireExplicitId modified
  refine ⟨?_, verdict⟩
  simp only [verdict.1]
  constructor
  · rintro ⟨entity, accepts⟩
    obtain ⟨before, yaml, rest, parts, declares, -⟩ := accepts.parts
    refine ⟨before, yaml, rest, entity.metadata, parts, declares, accepts.complete,
      ⟨entity.id, accepts.kind ▸ accepts.id⟩, ?_⟩
    intro behavior
    obtain ⟨tier, given⟩ := Option.isSome_iff_exists.mp (accepts.tiered_iff.mpr behavior)
    exact ⟨tier, accepts.tier tier given⟩
  · rintro ⟨before, yaml, rest, metadata, parts, declares, complete, ⟨id, identified⟩, tiered⟩
    exact exists_accepts parts declares complete identified tiered modified

end Document

end Guidebook
