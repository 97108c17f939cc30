import Guidebook.Query.Node
import Mathlib.Data.List.TakeWhile

/-!
# Two notations for tags

A front matter declares tags as a sequence, or as one text with commas between them.  In the
sequence there may be items that are no texts, and in the text there may be blanks around the
tags and pieces that are blank.  Neither is read, so both notations declare the same tags and
no query tells them apart.
-/

namespace Guidebook

/-! ## Pieces without their blanks -/

namespace Text

/-- A list of pieces is cut at the separators that were put between them. -/
theorem pieces_intercalate {separator : Char} {parts : List (List Char)} (nonempty : parts ≠ [])
    (whole : ∀ part ∈ parts, separator ∉ part) :
    pieces separator ([separator].intercalate parts) = parts := by
  induction parts with
  | nil => contradiction
  | cons part rest ih =>
      have first := List.forall_mem_cons.mp whole
      cases rest with
      | nil =>
          rw [List.intercalate_singleton]
          exact pieces_of_not_mem first.1
      | cons next rest =>
          rw [List.intercalate_cons_cons, List.append_assoc, List.singleton_append,
            pieces_append first.1, ih (List.cons_ne_nil next rest) first.2]

theorem trim_of_allBlank {text : List Char} (blank : allBlank text = true) : trim text = [] := by
  have nothing : trimStart text = [] := List.dropWhile_eq_nil_iff.mpr (List.all_eq_true.mp blank)
  rw [trim, nothing]
  rfl

theorem dropWhile_append_of_allBlank {gap text : List Char} (blank : allBlank gap = true)
    (solid : ∀ c ∈ text.head?, isBlank c = false) :
    (gap ++ text).dropWhile isBlank = text := by
  rw [List.dropWhile_append_of_pos (List.all_eq_true.mp blank)]
  cases text with
  | nil => rfl
  | cons c rest => rw [List.dropWhile_cons_of_neg (by simp [solid c rfl])]

/-- The blanks around a text without blanks at its ends are trimmed. -/
theorem trim_append {before text after : List Char} (nonempty : text ≠ [])
    (starts : ∀ c ∈ text.head?, isBlank c = false) (ends : ∀ c ∈ text.getLast?, isBlank c = false)
    (blankBefore : allBlank before = true) (blankAfter : allBlank after = true) :
    trim (before ++ text ++ after) = text := by
  have start : trimStart (before ++ text ++ after) = text ++ after := by
    rw [trimStart, List.append_assoc]
    apply dropWhile_append_of_allBlank blankBefore
    cases text with
    | nil => contradiction
    | cons c rest => exact starts
  have reversed : allBlank after.reverse = true := by
    rw [allBlank, List.all_reverse]
    exact blankAfter
  rw [trim, start, trimEnd, List.reverse_append, dropWhile_append_of_allBlank reversed,
    List.reverse_reverse]
  rwa [List.head?_reverse]

end Text

/-! ## The notations -/

namespace Metadata

/-- A tag that can stand between commas: it has no comma in it, and no blank at its ends. -/
structure IsTag (tag : String) : Prop where
  nonempty : tag ≠ ""
  whole : ',' ∉ tag.toList
  starts : ∀ c ∈ tag.toList.head?, Text.isBlank c = false
  ends : ∀ c ∈ tag.toList.getLast?, Text.isBlank c = false

theorem isTag_iff (tag : String) : IsTag tag ↔
    tag ≠ "" ∧ ',' ∉ tag.toList ∧ tag.toList.head?.all (!Text.isBlank ·) = true ∧
      tag.toList.getLast?.all (!Text.isBlank ·) = true := by
  simp only [Option.all_eq_true, Bool.not_eq_true']
  exact ⟨fun ⟨nonempty, whole, starts, ends⟩ => ⟨nonempty, whole, starts, ends⟩,
    fun ⟨nonempty, whole, starts, ends⟩ => ⟨nonempty, whole, starts, ends⟩⟩

instance (tag : String) : Decidable (IsTag tag) := decidable_of_iff' _ (isTag_iff tag)

/-- A sequence of tags, among which there may be items that are no texts. -/
inductive Mixed : (items : List Json) → (tags : List String) → Prop where
  | nil : Mixed [] []
  | tag {tag : String} {items : List Json} {tags : List String} (later : Mixed items tags) :
      Mixed (.str tag :: items) (tag :: tags)
  | other {item : Json} {items : List Json} {tags : List String}
      (other : ∀ text, item ≠ .str text) (later : Mixed items tags) : Mixed (item :: items) tags

/-- The pieces of a list of tags: tags with blanks around them, and blank pieces. -/
inductive Padded : (pieces : List String) → (tags : List String) → Prop where
  | nil : Padded [] []
  | tag {before tag after : String} {pieces tags : List String}
      (blankBefore : Text.allBlank before.toList = true)
      (blankAfter : Text.allBlank after.toList = true) (later : Padded pieces tags) :
      Padded ((before ++ tag ++ after) :: pieces) (tag :: tags)
  | blank {piece : String} {pieces tags : List String}
      (blank : Text.allBlank piece.toList = true) (later : Padded pieces tags) :
      Padded (piece :: pieces) tags

variable {tags : List String} {items : List Json} {pieces : List String}

theorem Mixed.filterMap_text? (mixed : Mixed items tags) : items.filterMap Json.text? = tags := by
  induction mixed with
  | nil => rfl
  | tag later ih => rw [List.filterMap_cons, Json.text?, ih]
  | @other item items tags other later ih =>
      cases item with
      | str text => exact absurd rfl (other text)
      | null | bool | int | float | arr | obj => exact ih

theorem not_mem_of_allBlank {text : List Char} (blank : Text.allBlank text = true) :
    ',' ∉ text := by
  intro member
  have comma := List.all_eq_true.mp blank ',' member
  cases comma

/-- There are no commas in the pieces. -/
theorem Padded.whole (padded : Padded pieces tags) (proper : ∀ tag ∈ tags, IsTag tag) :
    ∀ piece ∈ pieces, ',' ∉ piece.toList := by
  induction padded with
  | nil => simp
  | tag blankBefore blankAfter later ih =>
      have first := List.forall_mem_cons.mp proper
      simp only [List.forall_mem_cons, String.toList_append, List.mem_append, not_or]
      constructor
      · exact ⟨⟨not_mem_of_allBlank blankBefore, first.1.whole⟩, not_mem_of_allBlank blankAfter⟩
      · exact ih first.2
  | blank blank later ih =>
      simp only [List.forall_mem_cons]
      exact ⟨not_mem_of_allBlank blank, ih proper⟩

/-- Of the pieces the tags are left. -/
theorem Padded.trimmed (padded : Padded pieces tags) (proper : ∀ tag ∈ tags, IsTag tag) :
    ((pieces.map fun piece => Text.trim piece.toList).filter (!·.isEmpty)).map String.ofList =
      tags := by
  induction padded with
  | nil => rfl
  | @tag before tag after pieces tags blankBefore blankAfter later ih =>
      have first := List.forall_mem_cons.mp proper
      have nonempty : tag.toList ≠ [] := by simpa using first.1.nonempty
      have bare : Text.trim (before ++ tag ++ after).toList = tag.toList := by
        rw [String.toList_append, String.toList_append]
        exact Text.trim_append nonempty first.1.starts first.1.ends blankBefore blankAfter
      rw [List.map_cons, bare, List.filter_cons_of_pos (by simpa using nonempty), List.map_cons,
        ih first.2, String.ofList_toList]
  | blank blank later ih =>
      rw [List.map_cons, Text.trim_of_allBlank blank, List.filter_cons_of_neg (by simp)]
      exact ih proper

theorem Padded.tagPieces_intercalate (padded : Padded pieces tags)
    (proper : ∀ tag ∈ tags, IsTag tag) : tagPieces (",".intercalate pieces) = tags := by
  have trimmed := padded.trimmed proper
  by_cases nonempty : pieces = []
  · subst nonempty
    exact trimmed
  · have cut : Text.pieces ',' (",".intercalate pieces).toList = pieces.map String.toList := by
      rw [String.toList_intercalate]
      apply Text.pieces_intercalate (by simpa using nonempty)
      simpa using padded.whole proper
    rw [tagPieces, cut, List.map_map]
    exact trimmed

theorem tags_of_arr {metadata : Metadata}
    (declared : Json.lookup? "tags" metadata = some (.arr items))
    (mixed : Mixed items tags) : metadata.tags = tags := by
  rw [Metadata.tags, declared]
  exact mixed.filterMap_text?

theorem tags_of_str {metadata : Metadata}
    (declared : Json.lookup? "tags" metadata = some (.str (",".intercalate pieces)))
    (padded : Padded pieces tags) (proper : ∀ tag ∈ tags, IsTag tag) : metadata.tags = tags := by
  rw [Metadata.tags, declared]
  exact padded.tagPieces_intercalate proper

/-- Tags that are declared as a sequence and as one text are the same tags, in their order.  An
entity has them in its summary in either case, and where the descriptions are the same too,
every query gives the same answer. -/
theorem notations_declare_same (proper : ∀ tag ∈ tags, IsTag tag) (mixed : Mixed items tags)
    (padded : Padded pieces tags) {sequence joined : Metadata}
    (inSequence : Json.lookup? "tags" sequence = some (.arr items))
    (inText : Json.lookup? "tags" joined = some (.str (",".intercalate pieces))) :
    sequence.tags = tags ∧ joined.tags = tags ∧
    ∀ entity : Entity,
      { entity with metadata := sequence }.summary.tags = tags ∧
      { entity with metadata := joined }.summary.tags = tags ∧
      (description? sequence = description? joined → ∀ query,
        Query.accepts query { entity with metadata := sequence }.summary =
          Query.accepts query { entity with metadata := joined }.summary) := by
  have left : sequence.tags = tags := tags_of_arr inSequence mixed
  have right : joined.tags = tags := tags_of_str inText padded proper
  refine ⟨left, right, fun entity => ⟨left, right, ?_⟩⟩
  intro described query
  have alike : { entity with metadata := sequence }.summary =
      { entity with metadata := joined }.summary := by
    simp only [Entity.summary, Entity.tags, Entity.description?, left, right, described]
  rw [alike]

/-- Two tags, in a sequence with a number between them. -/
def sequenceOfTwo : Metadata :=
  [("tags", .arr [.str "scope:core", .int 7, .str "on call"])]

/-- The same tags in a text, with blanks around the commas and a piece too many at each end. -/
def textOfTwo : Metadata := [("tags", .str ", scope:core,\ton call , ")]

theorem notations_declare_same_two :
    (∀ tag ∈ ["scope:core", "on call"], IsTag tag) ∧
    Mixed [.str "scope:core", .int 7, .str "on call"] ["scope:core", "on call"] ∧
    Padded ["", " scope:core", "\ton call ", " "] ["scope:core", "on call"] ∧
    sequenceOfTwo.tags = ["scope:core", "on call"] ∧ textOfTwo.tags = ["scope:core", "on call"] ∧
    ∀ (entity : Entity) (query : Option Query.Node),
      Query.accepts query { entity with metadata := sequenceOfTwo }.summary =
        Query.accepts query { entity with metadata := textOfTwo }.summary := by
  have proper : ∀ tag ∈ ["scope:core", "on call"], IsTag tag := by decide
  have mixed : Mixed [.str "scope:core", .int 7, .str "on call"] ["scope:core", "on call"] :=
    .tag (.other (by simp) (.tag .nil))
  have padded : Padded ["", " " ++ "scope:core" ++ "", "\t" ++ "on call" ++ " ", " "]
      ["scope:core", "on call"] :=
    .blank rfl (.tag rfl rfl (.tag rfl rfl (.blank rfl .nil)))
  have inSequence : Json.lookup? "tags" sequenceOfTwo =
      some (.arr [.str "scope:core", .int 7, .str "on call"]) := rfl
  have inText : Json.lookup? "tags" textOfTwo =
      some (.str (",".intercalate ["", " scope:core", "\ton call ", " "])) := rfl
  obtain ⟨sequence, joined, entities⟩ :=
    notations_declare_same proper mixed padded inSequence inText
  exact ⟨proper, mixed, padded, sequence, joined,
    fun entity query => (entities entity).2.2 rfl query⟩

end Metadata

end Guidebook
