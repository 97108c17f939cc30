import Guidebook.Index.Discovery
import Guidebook.Proofs.Patterns
import Guidebook.Proofs.Validity

/-!
# Globs that can be expanded

The settings of an index are checked with each glob as one pattern, but an expansion
reads the root and the glob together, and each component of them as a pattern of its
own.  The two readings agree but for a class in which a separator is written: as a
whole it is a class, cut at the separator it is none.
-/

namespace Guidebook.Glob

/-- A class that is written with a separator in it. -/
def Item.isSplit : Item → Bool
  | .within ranges | .except ranges =>
      ranges.any fun range => range.first == '/' || range.last == '/'
  | _ => false

/-- The text can be read as a pattern. -/
def Readable (atStart : Bool) (text : List Char) : Prop := ∃ items, Reads atStart text items

theorem readable_nil (atStart : Bool) : Readable atStart [] := ⟨[], .nil⟩

theorem readable_letter_iff {atStart : Bool} {c : Char} {rest : List Char}
    (notRun : c ≠ '*') (notClass : c ≠ '[') :
    Readable atStart (c :: rest) ↔ Readable (c == '/') rest := by
  simp [Readable, reads_letter_iff notRun notClass]

theorem readable_anyRun_iff {atStart : Bool} {rest : List Char}
    (single : rest.head? ≠ some '*') :
    Readable atStart ('*' :: rest) ↔ Readable false rest := by
  simp [Readable, reads_anyRun_iff single]

/-- A class that is closed leaves the rest of the text to be read. -/
theorem readable_class_iff {atStart : Bool} {inner rest : List Char} {item : Item}
    (opens : ClassText inner item) :
    Readable atStart ('[' :: (inner ++ ']' :: rest)) ↔ Readable false rest := by
  have read : readClass? (inner ++ ']' :: rest) = some (item, rest) :=
    readClass?_eq_some_iff.mpr ⟨inner, opens, rfl⟩
  simp [Readable, reads_class_iff, read]

/-! ## Classes with a separator -/

theorem any_ranges_iff_mem (text : List Char) :
    ((ranges text).any fun range => range.first == '/' || range.last == '/') = true ↔
      '/' ∈ text := by
  fun_induction ranges text with
  | case1 first last rest ih =>
      rw [List.any_cons, Bool.or_eq_true, ih, Bool.or_eq_true, beq_iff_eq, beq_iff_eq]
      simp only [List.mem_cons, or_assoc, @eq_comm Char '/']
      simp
  | case2 c rest _ ih =>
      rw [List.any_cons, Bool.or_eq_true, ih, Bool.or_self, beq_iff_eq, List.mem_cons, eq_comm]
  | case3 => simp

theorem ClassText.isSplit_iff {inner : List Char} {item : Item}
    (opens : ClassText inner item) : item.isSplit = true ↔ '/' ∈ inner := by
  cases opens with
  | within => exact any_ranges_iff_mem _
  | except =>
      rw [Item.isSplit, any_ranges_iff_mem, List.mem_cons (a := '/') (b := '!')]
      simp

/-- A class does not end before a character in it. -/
theorem ClassText.not_readable {atStart : Bool} {before after : List Char} {c : Char}
    {item : Item} (opens : ClassText (before ++ c :: after) item) :
    ¬Readable atStart ('[' :: before) := by
  rintro ⟨items, reads⟩
  obtain ⟨other, rest, later, read, -, -⟩ := reads_class_iff.mp reads
  obtain ⟨inner, closes, rfl⟩ := readClass?_eq_some_iff.mp read
  -- the shorter class would end with a bracket inside the longer one
  generalize shape : inner ++ ']' :: rest ++ c :: after = text at opens
  cases closes with
  | within => cases opens <;> grind
  | except => cases opens <;> grind

/-! ## Components -/

/-- Each component of the text can be read as a pattern. -/
def Expandable (text : List Char) : Prop :=
  ∀ piece ∈ Text.pieces '/' text, Readable true piece

theorem expandable_nil : Expandable [] := by
  simp [Expandable, Text.pieces, readable_nil]

theorem expandable_append_separator {left right : List Char} :
    Expandable (left ++ '/' :: right) ↔ Expandable left ∧ Expandable right := by
  rw [Expandable, Text.pieces_append_separator, List.forall_mem_append]
  rfl

theorem expandable_separator_cons {text : List Char} :
    Expandable ('/' :: text) ↔ Expandable text :=
  (@expandable_append_separator [] text).trans (and_iff_right expandable_nil)

theorem expandable_concat_separator {text : List Char} :
    Expandable (text ++ ['/']) ↔ Expandable text :=
  expandable_append_separator.trans (and_iff_left expandable_nil)

theorem head?_of_pieces {text first : List Char} {others : List (List Char)}
    (cut : Text.pieces '/' text = first :: others) {c : Char} (starts : first.head? = some c) :
    text.head? = some c := by
  cases text with
  | nil =>
      cases cut
      cases starts
  | cons d rest =>
      rw [Text.pieces] at cut
      split at cut
      · cases cut
        cases starts
      · split at cut <;> cases cut <;> exact starts

/-- As for `Expandable`, but the text may start inside a component. -/
def ExpandableFrom (atStart : Bool) (text : List Char) : Prop :=
  ∃ first others, Text.pieces '/' text = first :: others ∧ Readable atStart first ∧
    ∀ piece ∈ others, Readable true piece

theorem expandableFrom_iff_of_pieces {atStart : Bool} {text first : List Char}
    {others : List (List Char)} (cut : Text.pieces '/' text = first :: others) :
    ExpandableFrom atStart text ↔
      Readable atStart first ∧ ∀ piece ∈ others, Readable true piece := by
  unfold ExpandableFrom
  rw [cut]
  constructor
  · rintro ⟨_, _, ⟨⟩, readable⟩
    exact readable
  · intro readable
    exact ⟨first, others, rfl, readable⟩

theorem expandable_iff_expandableFrom {text : List Char} :
    Expandable text ↔ ExpandableFrom true text := by
  obtain ⟨first, others, cut⟩ := List.exists_cons_of_ne_nil (Text.pieces_ne_nil '/' text)
  rw [expandableFrom_iff_of_pieces cut, Expandable, cut, List.forall_mem_cons]

theorem expandableFrom_of_not_mem {atStart : Bool} {text : List Char} (absent : '/' ∉ text) :
    ExpandableFrom atStart text ↔ Readable atStart text := by
  rw [expandableFrom_iff_of_pieces (Text.pieces_of_not_mem absent)]
  simp

/-- A separator ends the component before it. -/
theorem expandableFrom_append_separator {atStart : Bool} {before text : List Char}
    (absent : '/' ∉ before) :
    ExpandableFrom atStart (before ++ '/' :: text) ↔ Readable atStart before ∧ Expandable text :=
  expandableFrom_iff_of_pieces (Text.pieces_append absent text)

/-- What can be left out of the first component can be left out. -/
theorem expandableFrom_append {atStart after : Bool} {before text : List Char}
    (absent : '/' ∉ before)
    (goesOn : ∀ {first others}, Text.pieces '/' text = first :: others →
      (Readable atStart (before ++ first) ↔ Readable after first)) :
    ExpandableFrom atStart (before ++ text) ↔ ExpandableFrom after text := by
  obtain ⟨first, others, cut⟩ := List.exists_cons_of_ne_nil (Text.pieces_ne_nil '/' text)
  rw [expandableFrom_iff_of_pieces (Text.pieces_append_of_not_mem absent cut),
    expandableFrom_iff_of_pieces cut, goesOn cut]

theorem expandableFrom_class_iff {atStart : Bool} {inner rest : List Char} {item : Item}
    (opens : ClassText inner item) :
    ExpandableFrom atStart ('[' :: (inner ++ ']' :: rest)) ↔
      item.isSplit = false ∧ ExpandableFrom false rest := by
  by_cases split : '/' ∈ inner
  · obtain ⟨before, after, rfl, absent⟩ := List.eq_append_cons_of_mem split
    have outer : '/' ∉ '[' :: before := by simp [absent]
    have shape : '[' :: (before ++ '/' :: after ++ ']' :: rest) =
        '[' :: before ++ '/' :: (after ++ ']' :: rest) := by simp
    rw [shape, expandableFrom_append_separator outer]
    simp [opens.not_readable, opens.isSplit_iff.mpr split]
  · have whole : item.isSplit = false := by
      rw [← Bool.not_eq_true, opens.isSplit_iff]
      exact split
    have absent : '/' ∉ '[' :: inner ++ [']'] := by simp [split]
    have shape (rest : List Char) :
        '[' :: (inner ++ ']' :: rest) = '[' :: inner ++ [']'] ++ rest := by simp
    rw [and_iff_right whole, shape]
    exact expandableFrom_append absent fun _ => by rw [← shape, readable_class_iff opens]

/-- The components of a pattern can be read unless one of its classes is written with a
separator. -/
theorem Reads.expandableFrom_iff {atStart : Bool} {text : List Char} {items : List Item}
    (reads : Reads atStart text items) :
    ExpandableFrom atStart text ↔ ∀ item ∈ items, item.isSplit = false := by
  induction reads with
  | nil =>
      rw [expandableFrom_of_not_mem List.not_mem_nil]
      simp [readable_nil]
  | @letter atStart c rest items notRun notClass later ih =>
      have whole : (if c = '?' then Item.anyLetter else .letter c).isSplit = false := by
        split <;> rfl
      rw [List.forall_mem_cons, and_iff_right whole, ← ih]
      by_cases separator : c = '/'
      · subst separator
        change ExpandableFrom atStart ([] ++ '/' :: rest) ↔ ExpandableFrom true rest
        rw [expandableFrom_append_separator List.not_mem_nil, ← expandable_iff_expandableFrom,
          and_iff_right (readable_nil atStart)]
      · change ExpandableFrom atStart ([c] ++ rest) ↔ _
        refine expandableFrom_append ?_ fun _ => readable_letter_iff notRun notClass
        simpa using Ne.symm separator
  | @anyRun atStart rest items single later ih =>
      have whole : Item.anyRun.isSplit = false := rfl
      rw [List.forall_mem_cons, and_iff_right whole, ← ih]
      change ExpandableFrom atStart (['*'] ++ rest) ↔ _
      refine expandableFrom_append (by decide) fun cut => ?_
      exact readable_anyRun_iff fun starts => single (head?_of_pieces cut starts)
  | lastDirectories =>
      have read : Readable true ['*', '*'] := ⟨_, .lastDirectories⟩
      rw [expandableFrom_of_not_mem (by decide)]
      simp [read, Item.isSplit]
  | @directories rest items later ih =>
      have whole : Item.anyDirectories.isSplit = false := rfl
      have start : Readable true ['*', '*'] := ⟨_, .lastDirectories⟩
      rw [List.forall_mem_cons, and_iff_right whole, ← ih]
      change ExpandableFrom true (['*', '*'] ++ '/' :: rest) ↔ _
      rw [expandableFrom_append_separator (by decide), and_iff_right start,
        expandable_iff_expandableFrom]
  | bracketed opens shape later ih =>
      rw [shape, expandableFrom_class_iff opens, ih, List.forall_mem_cons]

theorem Reads.expandable_iff {text : List Char} {items : List Item}
    (reads : Reads true text items) :
    Expandable text ↔ ∀ item ∈ items, item.isSplit = false :=
  expandable_iff_expandableFrom.trans reads.expandableFrom_iff

/-- A component can be put before a pattern. -/
theorem Readable.append_separator {atStart : Bool} {left right : List Char}
    (first : Readable atStart left) (second : Readable true right) :
    Readable atStart (left ++ '/' :: right) := by
  obtain ⟨items, reads⟩ := first
  induction reads with
  | nil => exact (readable_letter_iff (by decide) (by decide)).mpr second
  | letter notRun notClass _ ih => exact (readable_letter_iff notRun notClass).mpr ih
  | @anyRun _ rest _ single _ ih =>
      refine (readable_anyRun_iff ?_).mpr ih
      cases rest with
      | nil => simp
      | cons c rest => exact single
  | lastDirectories =>
      obtain ⟨below, reads⟩ := second
      exact ⟨_, .directories reads⟩
  | directories _ ih =>
      obtain ⟨below, reads⟩ := ih
      exact ⟨_, .directories reads⟩
  | bracketed opens shape _ ih =>
      subst shape
      simpa using (readable_class_iff opens).mpr ih

theorem Expandable.readable {text : List Char} (expandable : Expandable text) :
    Readable true text := by
  by_cases member : '/' ∈ text
  · obtain ⟨before, after, rfl, absent⟩ := List.eq_append_cons_of_mem member
    obtain ⟨first, second⟩ := expandable_append_separator.mp expandable
    have alone : before ∈ Text.pieces '/' before := by
      rw [Text.pieces_of_not_mem absent]
      exact List.mem_singleton_self before
    exact (first before alone).append_separator second.readable
  · rw [Expandable, Text.pieces_of_not_mem member] at expandable
    exact expandable text (List.mem_singleton_self text)
termination_by text.length
decreasing_by simp [*]; omega

/-! ## The glob of a type below a root -/

theorem isSplit_literalItem (c : Char) : (literalItem c).isSplit = false := by
  rw [literalItem]
  split
  · next sign =>
      have other : c ≠ '/' := by
        rintro rfl
        cases sign
      simpa [Item.isSplit] using other
  · rfl

theorem expandable_escape (text : String) : Expandable (escape text).toList := by
  rw [toList_escape, (reads_escape true text.toList).expandable_iff, List.forall_mem_map]
  intro c _
  exact isSplit_literalItem c

theorem expandable_trimSeparatorsStart_iff (text : String) :
    Expandable (Discovery.trimSeparatorsStart text).toList ↔ Expandable text.toList := by
  rw [Discovery.trimSeparatorsStart, String.toList_ofList]
  induction text.toList with
  | nil => rfl
  | cons c rest ih =>
      rw [List.dropWhile_cons]
      split
      · next separator =>
          rw [beq_iff_eq.mp separator, ih, expandable_separator_cons]
      · rfl

theorem expandable_trimSeparatorsEnd_iff (text : String) :
    Expandable (Discovery.trimSeparatorsEnd text).toList ↔ Expandable text.toList := by
  have reversed (backward : List Char) :
      Expandable (backward.dropWhile (· == '/')).reverse ↔ Expandable backward.reverse := by
    induction backward with
    | nil => rfl
    | cons c rest ih =>
        rw [List.dropWhile_cons]
        split
        · next separator =>
            rw [beq_iff_eq.mp separator, ih, List.reverse_cons, expandable_concat_separator]
        · rfl
  rw [Discovery.trimSeparatorsEnd, String.toList_ofList, reversed, List.reverse_reverse]

theorem expandable_globText_iff (root : Path) (type : DocumentType) :
    Expandable (Discovery.globText root type).toList ↔ Expandable type.glob.toList := by
  have cut : (Discovery.globText root type).toList =
      (Discovery.trimSeparatorsEnd (escape root.text)).toList ++
        '/' :: (Discovery.trimSeparatorsStart type.glob).toList := by
    simp [Discovery.globText, String.toList_append]
  rw [cut, expandable_append_separator, expandable_trimSeparatorsEnd_iff,
    expandable_trimSeparatorsStart_iff, and_iff_right (expandable_escape root.text)]

/-! ## Expansion -/

/-- The components of a glob are its pieces but for empty ones at its ends. -/
theorem forall_componentTexts_iff (text : List Char) :
    (∀ component ∈ componentTexts text, Readable true component) ↔ Expandable text := by
  have inner : Expandable (if text.head? = some '/' then text.drop 1 else text) ↔
      Expandable text := by
    split
    · next starts =>
        obtain ⟨rest, rfl⟩ := List.head?_eq_some_iff.mp starts
        exact expandable_separator_cons.symm
    · rfl
  have ends (parts : List (List Char)) :
      (∀ part ∈ if parts.getLast? = some [] then parts.dropLast else parts, Readable true part) ↔
        ∀ part ∈ parts, Readable true part := by
    split
    · next ended =>
        have shape : parts.dropLast ++ [[]] = parts := List.dropLast_append_getLast? [] ended
        nth_rewrite 2 [← shape]
        rw [List.forall_mem_append, List.forall_mem_singleton, and_iff_left (readable_nil true)]
    · rfl
  exact (ends _).trans inner

theorem exists_parse_eq_ok_iff {text : String} :
    (∃ glob, Glob.parse text = .ok glob) ↔ Expandable text.toList := by
  have steps : (∃ steps, (componentTexts text.toList).mapM (fun component => do
      return Step.ofItems (← parseItems (String.ofList component))) =
        (Except.ok steps : Except PatternError (List Step))) ↔ Expandable text.toList := by
    rw [exists_mapM_eq_ok_iff, ← forall_componentTexts_iff]
    simp only [bind_eq_ok_iff, parseItems_eq_ok_iff, String.toList_ofList]
    simp [Readable, pure, Except.pure]
  constructor
  · rintro ⟨glob, parsed⟩
    obtain ⟨items, -, parsed⟩ := bind_eq_ok_iff.mp parsed
    obtain ⟨found, read, -⟩ := bind_eq_ok_iff.mp parsed
    exact steps.mp ⟨found, read⟩
  · intro expandable
    obtain ⟨items, reads⟩ := expandable.readable
    obtain ⟨found, read⟩ := steps.mpr expandable
    exact ⟨_, bind_eq_ok_iff.mpr ⟨items, parseItems_eq_ok_iff.mpr reads,
      bind_eq_ok_iff.mpr ⟨found, read, rfl⟩⟩⟩

end Guidebook.Glob

namespace Guidebook

/-! ## Discovery -/

/-- A class in the glob of the type is written with a separator. -/
def DocumentType.isSplit (type : DocumentType) : Bool :=
  match Glob.parseItems type.glob with
  | .ok items => items.any (·.isSplit)
  | .error _ => false

/-- A glob that is a pattern can be expanded unless it has a split class. -/
theorem DocumentType.expandable_iff {type : DocumentType} {items : List Glob.Item}
    (read : Glob.parseItems type.glob = .ok items) :
    Glob.Expandable type.glob.toList ↔ type.isSplit = false := by
  rw [(Glob.parseItems_eq_ok_iff.mp read).expandable_iff, isSplit, read]
  simp

namespace Discovery

variable {around : Surroundings} {root : Path}

theorem exists_filesOf_eq_ok_iff {type : DocumentType} :
    (∃ paths, filesOf around root type = .ok paths) ↔ Glob.Expandable type.glob.toList := by
  rw [← Glob.expandable_globText_iff root, ← Glob.exists_parse_eq_ok_iff, filesOf]
  cases Glob.parse (globText root type) <;> simp

theorem eq_globError_of_filesOf {type : DocumentType} {error : Error}
    (fails : filesOf around root type = .error error) :
    ∃ fault, error = IndexSettings.globError type fault := by
  unfold filesOf at fails
  split at fails
  · next fault _ =>
      cases fails
      exact ⟨fault, rfl⟩
  · cases fails

/-- Candidates are found if the files of all types are, and the first type that fails is
the one whose error is passed on. -/
theorem candidatesFrom_map_unit {index : Nat} {seen : List Path} {types : List DocumentType} :
    (candidatesFrom around root index seen types).map (fun _ => ()) =
      (types.mapM (filesOf around root)).map fun _ => () := by
  induction types generalizing index seen with
  | nil => rfl
  | cons type rest ih =>
      rw [candidatesFrom, List.mapM_cons]
      cases filesOf around root type with
      | error error => rfl
      | ok paths =>
          have later := @ih (index + 1) (distinct seen paths ++ seen)
          revert later
          simp only [bind, Except.bind]
          cases candidatesFrom around root (index + 1) (distinct seen paths ++ seen) rest <;>
            cases rest.mapM (filesOf around root) <;> simp [Except.map, pure, Except.pure]

theorem exists_candidatesFrom_eq_ok_iff {index : Nat} {seen : List Path}
    {types : List DocumentType} :
    (∃ candidates, candidatesFrom around root index seen types = .ok candidates) ↔
      ∀ type ∈ types, ∃ paths, filesOf around root type = .ok paths := by
  have alike := @candidatesFrom_map_unit around root index seen types
  rw [← exists_mapM_eq_ok_iff]
  cases found : candidatesFrom around root index seen types <;>
    cases listed : types.mapM (filesOf around root) <;> simp_all [Except.map]

theorem candidatesFrom_eq_error_iff {index : Nat} {seen : List Path}
    {types : List DocumentType} {error : Error} :
    candidatesFrom around root index seen types = .error error ↔
      types.mapM (filesOf around root) = .error error := by
  have alike := @candidatesFrom_map_unit around root index seen types
  cases found : candidatesFrom around root index seen types <;>
    cases listed : types.mapM (filesOf around root) <;> simp_all [Except.map]

end Discovery

/-- Settings that pass their check are expanded unless a glob has a class that is written
with a separator; then the first type with such a glob is refused. -/
theorem discover_of_validate {around : Surroundings} {settings : IndexSettings}
    (passes : settings.validate around = .ok ()) :
    ((∃ candidates, discover around settings = .ok candidates) ↔
      ∀ type ∈ settings.types, type.isSplit = false) ∧
    ∀ error, discover around settings = .error error →
      ∃ type fault, settings.types.find? (·.isSplit) = some type ∧
        error = IndexSettings.globError type fault := by
  have sound := IndexSettings.Sound.of_validate passes
  have found (type : DocumentType) (member : type ∈ settings.types) :
      (∃ paths, Discovery.filesOf around
        (Discovery.absoluteRoot around settings.root) type = .ok paths) ↔
          type.isSplit = false := by
    obtain ⟨items, read⟩ := sound.validate_eq_ok_iff.mp passes type member
    rw [Discovery.exists_filesOf_eq_ok_iff, DocumentType.expandable_iff read]
  constructor
  · rw [discover, Discovery.exists_candidatesFrom_eq_ok_iff]
    exact forall₂_congr found
  · intro error fails
    rw [discover, Discovery.candidatesFrom_eq_error_iff, mapM_eq_error_iff] at fails
    obtain ⟨before, type, after, types, earlier, fails⟩ := fails
    obtain ⟨fault, rfl⟩ := Discovery.eq_globError_of_filesOf fails
    refine ⟨type, fault, List.find?_eq_some_iff_append.mpr
      ⟨?_, before, after, types, ?_⟩, rfl⟩
    · rw [← Bool.not_eq_false, ← found type (by simp [types])]
      rintro ⟨paths, succeeds⟩
      cases succeeds.symm.trans fails
    · intro other member
      rw [(found other (by simp [types, member])).mp (earlier other member)]
      rfl

/-! ## A class with a separator -/

def guideOf (types : List DocumentType) : IndexSettings where
  root := ⟨"/guide"⟩
  types := types

def wholeTypes : List DocumentType :=
  [{ name := "behavior", glob := "//**/[!a-z]*.bhv" }, { name := "recipe", glob := "x/[]-]?/*" }]

def splitType : DocumentType where
  name := "recipe"
  glob := "recipes/[a/b].rcp"

theorem discover_of_validate_whole :
    (guideOf wholeTypes).validate IndexSettings.bareAround = .ok () ∧
      ∃ candidates, discover IndexSettings.bareAround (guideOf wholeTypes) = .ok candidates := by
  have passes : (guideOf wholeTypes).validate IndexSettings.bareAround = .ok () := rfl
  exact ⟨passes, (discover_of_validate passes).1.mpr (by decide)⟩

theorem validate_splitType_not_discover :
    (guideOf [splitType]).validate IndexSettings.bareAround = .ok () ∧
      discover IndexSettings.bareAround (guideOf [splitType]) =
        .error (IndexSettings.globError splitType ⟨0, .range⟩) := ⟨rfl, rfl⟩

end Guidebook
