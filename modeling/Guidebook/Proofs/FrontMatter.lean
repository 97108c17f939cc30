import Guidebook.Index.Document

/-!
# Where the front matter of a text stands

A text is cut at its first two delimiters, and only these two count: dashes that come
later belong to the body, dashes right after a delimiter to what follows it.  This module
says which parts a cut gives without reference to the search for the delimiters, and
derives that what follows the second delimiter bears on nothing but the body.
-/

namespace Guidebook

namespace Text

variable {delimiter text : List Char}

/-- Put after the text, the delimiter occurs there for the first time: no occurrence
starts in the text, also none that ends in the delimiter. -/
def MeetsFirst (delimiter text : List Char) : Prop :=
  ∀ before after, text ++ delimiter = before ++ delimiter ++ after → after = []

theorem meetsFirst_nil (delimiter : List Char) : MeetsFirst delimiter [] := by
  intro before after same
  have lengths := congrArg List.length same
  simp only [List.nil_append, List.length_append] at lengths
  apply List.eq_nil_of_length_eq_zero
  omega

/-- A character before a text may only start an occurrence of its own. -/
theorem meetsFirst_cons_iff {c : Char} :
    MeetsFirst delimiter (c :: text) ↔
      ¬delimiter <+: c :: text ++ delimiter ∧ MeetsFirst delimiter text := by
  constructor
  · intro first
    constructor
    · rintro ⟨after, starts⟩
      have ended := first [] after starts.symm
      have lengths := congrArg List.length starts
      simp only [ended, List.length_append, List.length_cons, List.length_nil] at lengths
      omega
    · intro before after same
      apply first (c :: before) after
      simp [same]
  · rintro ⟨other, later⟩ before after same
    cases before with
    | nil => exact absurd ⟨after, same.symm⟩ other
    | cons d before =>
        apply later before after
        simpa using (List.cons.inj same).2

theorem dropPrefix?_eq_some_iff {rest : List Char} :
    dropPrefix? delimiter text = some rest ↔ text = delimiter ++ rest := by
  constructor
  · exact eq_of_dropPrefix?
  · rintro rfl
    induction delimiter with
    | nil => cases rest <;> rfl
    | cons d delimiter ih => simpa [dropPrefix?] using ih

/-- A text that starts with the delimiter is cut there. -/
theorem cutAround?_of_start (delimiter rest : List Char) :
    cutAround? delimiter (delimiter ++ rest) = some ([], rest) := by
  have starts := dropPrefix?_eq_some_iff.mpr (rfl : delimiter ++ rest = delimiter ++ rest)
  cases shape : delimiter ++ rest with
  | nil =>
      rw [shape] at starts
      rw [cutAround?, starts]
      rfl
  | cons c text =>
      rw [shape] at starts
      rw [cutAround?, starts]

/-- A character that starts no occurrence of the delimiter stands before the cut. -/
theorem cutAround?_cons {c : Char} (other : ¬delimiter <+: c :: text) :
    cutAround? delimiter (c :: text) =
      (cutAround? delimiter text).map fun (before, after) => (c :: before, after) := by
  have missing : dropPrefix? delimiter (c :: text) = none := by
    rw [Option.eq_none_iff_forall_ne_some]
    intro rest starts
    exact other ⟨rest, (dropPrefix?_eq_some_iff.mp starts).symm⟩
  rw [cutAround?, missing]

/-- A text can be cut where it meets the delimiter first. -/
theorem cutAround?_of_meetsFirst {before : List Char} (first : MeetsFirst delimiter before)
    (after : List Char) :
    cutAround? delimiter (before ++ delimiter ++ after) = some (before, after) := by
  induction before with
  | nil => exact cutAround?_of_start delimiter after
  | cons c before ih =>
      obtain ⟨other, later⟩ := meetsFirst_cons_iff.mp first
      have unstarted : ¬delimiter <+: c :: (before ++ delimiter ++ after) := by
        intro starts
        apply other
        apply List.prefix_of_prefix_length_le starts
        · exact ⟨after, by simp⟩
        · simp
          omega
      change cutAround? delimiter (c :: (before ++ delimiter ++ after)) = _
      rw [cutAround?_cons unstarted, ih later]
      rfl

/-- A text is cut only where it meets the delimiter first. -/
theorem meetsFirst_of_cutAround? {before after : List Char}
    (cut : cutAround? delimiter text = some (before, after)) : MeetsFirst delimiter before := by
  induction text generalizing before with
  | nil =>
      rw [cutAround?, Option.map_eq_some_iff] at cut
      obtain ⟨rest, -, shape⟩ := cut
      cases shape
      exact meetsFirst_nil delimiter
  | cons c text ih =>
      by_cases starts : delimiter <+: c :: text
      · obtain ⟨rest, whole⟩ := starts
        rw [← whole, cutAround?_of_start] at cut
        cases cut
        exact meetsFirst_nil delimiter
      · have whole := eq_of_cutAround? cut
        rw [cutAround?_cons starts, Option.map_eq_some_iff] at cut
        obtain ⟨⟨first, second⟩, found, shape⟩ := cut
        cases shape
        rw [meetsFirst_cons_iff]
        constructor
        · intro early
          apply starts
          rw [whole]
          exact early.trans (List.prefix_append _ after)
        · exact ih found

/-- A text is cut exactly where it meets the delimiter first. -/
theorem cutAround?_eq_some_iff {before after : List Char} :
    cutAround? delimiter text = some (before, after) ↔
      text = before ++ delimiter ++ after ∧ MeetsFirst delimiter before := by
  constructor
  · intro cut
    exact ⟨eq_of_cutAround? cut, meetsFirst_of_cutAround? cut⟩
  · rintro ⟨rfl, first⟩
    exact cutAround?_of_meetsFirst first after

end Text

namespace FrontMatter

/-- Nothing that is blank starts a delimiter. -/
theorem meetsFirst_of_allBlank {text : List Char} (blank : Text.allBlank text = true) :
    Text.MeetsFirst delimiter text := by
  induction text with
  | nil => exact Text.meetsFirst_nil delimiter
  | cons c text ih =>
      rw [Text.allBlank_cons, Bool.and_eq_true] at blank
      rw [Text.meetsFirst_cons_iff]
      constructor
      · rintro ⟨after, starts⟩
        have dash : c = '-' := (List.cons.inj starts).1.symm
        rw [dash] at blank
        exact absurd blank.1 (by decide)
      · exact ih blank.2

/-- The parts of a text with a front matter: blanks, a delimiter, the front matter, the
delimiter that it meets first, and the rest. -/
structure Parts (text before yaml rest : List Char) : Prop where
  text_eq : text = before ++ delimiter ++ yaml ++ delimiter ++ rest
  blank : Text.allBlank before = true
  first : Text.MeetsFirst delimiter yaml

variable {text before yaml rest : List Char}

theorem split?_eq_some_iff {body : List Char} :
    split? text = some (yaml, body) ↔
      ∃ before rest, Parts text before yaml rest ∧ Text.trim rest = body := by
  simp only [split?, Option.bind_eq_bind, Option.bind_eq_some_iff, Prod.exists,
    Text.cutAround?_eq_some_iff, Option.ite_none_right_eq_some]
  constructor
  · rintro ⟨before, later, ⟨rfl, -⟩, yaml, rest, ⟨rfl, first⟩, blank, same⟩
    cases same
    exact ⟨before, rest, ⟨by simp, blank, first⟩, rfl⟩
  · rintro ⟨before, rest, parts, rfl⟩
    have outer : text = before ++ delimiter ++ (yaml ++ delimiter ++ rest) := by
      simp [parts.text_eq]
    exact ⟨before, _, ⟨outer, meetsFirst_of_allBlank parts.blank⟩, yaml, rest,
      ⟨rfl, parts.first⟩, parts.blank, rfl⟩

/-- A text has one front matter at most. -/
theorem Parts.unique {otherBefore otherYaml otherRest : List Char}
    (parts : Parts text before yaml rest) (others : Parts text otherBefore otherYaml otherRest) :
    before = otherBefore ∧ yaml = otherYaml ∧ rest = otherRest := by
  have outer {before yaml rest : List Char} (parts : Parts text before yaml rest) :
      Text.cutAround? delimiter text = some (before, yaml ++ delimiter ++ rest) := by
    rw [Text.cutAround?_eq_some_iff]
    exact ⟨by simp [parts.text_eq], meetsFirst_of_allBlank parts.blank⟩
  have opened := (outer parts).symm.trans (outer others)
  simp only [Option.some.injEq, Prod.mk.injEq] at opened
  have inner := Text.cutAround?_of_meetsFirst parts.first rest
  rw [opened.2, Text.cutAround?_of_meetsFirst others.first] at inner
  cases inner
  exact ⟨opened.1, rfl, rfl⟩

/-- What follows the second delimiter of a text, whatever stands before the first, does not
bear on its front matter. -/
theorem map_split?_append (first : Text.MeetsFirst delimiter before)
    (second : Text.MeetsFirst delimiter yaml) (rest : List Char) :
    (split? (before ++ delimiter ++ yaml ++ delimiter ++ rest)).map (·.1) =
      if Text.allBlank before then some yaml else none := by
  have shape : before ++ delimiter ++ yaml ++ delimiter ++ rest =
      before ++ delimiter ++ (yaml ++ delimiter ++ rest) := by simp
  simp only [split?, shape, Text.cutAround?_of_meetsFirst first,
    Text.cutAround?_of_meetsFirst second, Option.bind_eq_bind, Option.bind_some]
  split <;> rfl

end FrontMatter

/-- All of an entity but its body. -/
def Entity.withoutBody (entity : Entity) : Entity := { entity with body := "" }

/-- Texts with one front matter are parsed alike but for the body. -/
theorem Document.map_parse_congr {left right : String}
    (same : (FrontMatter.split? left.toList).map (·.1) =
      (FrontMatter.split? right.toList).map (·.1))
    (wording : String → String) (path : Path) (type : DocumentType) (requireExplicitId : Bool)
    (modified : Moment) :
    (parse wording path left type requireExplicitId modified).map Entity.withoutBody =
      (parse wording path right type requireExplicitId modified).map Entity.withoutBody := by
  rw [parse, parse]
  cases leftCut : FrontMatter.split? left.toList with
  | none =>
      rw [leftCut, Option.map_none, eq_comm, Option.map_eq_none_iff] at same
      rw [same]
  | some leftParts =>
      obtain ⟨yaml, leftBody⟩ := leftParts
      rw [leftCut, Option.map_some, eq_comm, Option.map_eq_some_iff] at same
      obtain ⟨⟨_, rightBody⟩, rightCut, rfl⟩ := same
      rw [rightCut]
      apply map_bind_congr
      intro metadata
      split
      · rfl
      · apply map_bind_congr
        intro id
        split
        · apply map_bind_congr
          intro tier
          rfl
        · rfl

namespace FrontMatter

/-- A text is split exactly at its first two delimiters, with nothing but blanks before
the first; there is one way to do so at most.  Texts that agree up to their second
delimiters are both refused, for one reason, or hold entities that differ in their bodies
at most. -/
theorem cut_at_first_two_delimiters :
    (∀ text yaml body, split? text = some (yaml, body) ↔
      ∃ before rest, Parts text before yaml rest ∧ Text.trim rest = body) ∧
    (∀ text, split? text = none ↔ ¬∃ before yaml rest, Parts text before yaml rest) ∧
    (∀ text before yaml rest otherBefore otherYaml otherRest, Parts text before yaml rest →
      Parts text otherBefore otherYaml otherRest →
        before = otherBefore ∧ yaml = otherYaml ∧ rest = otherRest) ∧
    ∀ before yaml, Text.MeetsFirst delimiter before → Text.MeetsFirst delimiter yaml →
      ∀ left right wording path type requireExplicitId modified,
        (Document.parse wording path
          (String.ofList (before ++ delimiter ++ yaml ++ delimiter ++ left))
          type requireExplicitId modified).map Entity.withoutBody =
        (Document.parse wording path
          (String.ofList (before ++ delimiter ++ yaml ++ delimiter ++ right))
          type requireExplicitId modified).map Entity.withoutBody := by
  refine ⟨fun text yaml body => split?_eq_some_iff, ?none, ?unique, ?alike⟩
  case none =>
    intro text
    rw [Option.eq_none_iff_forall_ne_some]
    constructor
    · rintro missing ⟨before, yaml, rest, parts⟩
      exact missing _ (split?_eq_some_iff.mpr ⟨before, rest, parts, rfl⟩)
    · rintro missing ⟨yaml, body⟩ split
      obtain ⟨before, rest, parts, -⟩ := split?_eq_some_iff.mp split
      exact missing ⟨before, yaml, rest, parts⟩
  case unique =>
    intro text before yaml rest otherBefore otherYaml otherRest parts others
    exact parts.unique others
  case alike =>
    intro before yaml first second left right
    apply Document.map_parse_congr
    rw [String.toList_ofList, String.toList_ofList, map_split?_append first second,
      map_split?_append first second]

/-- Of five dashes the last two are left to the body. -/
example : split? " --- a ----- b".toList = some (" a ".toList, "-- b".toList) := by decide

end FrontMatter

end Guidebook
