import Guidebook.Error
import Guidebook.Glob.Pattern
import Mathlib.Data.List.TakeDrop
import Mathlib.Data.List.TakeWhile

/-!
# What a pattern reads as

The reader of patterns carries fuel and a position for its errors, and looks up to three
characters ahead.  This module says as which items a text reads without reference to
that reading, one construct of the text after the other.
-/

namespace Guidebook.Glob

/-! ## Classes -/

/-- The text of a class, without its brackets. -/
inductive ClassText : (text : List Char) → Item → Prop where
  | within {first : Char} {rest : List Char} (plain : first ≠ '!') (closed : ']' ∉ rest) :
      ClassText (first :: rest) (.within (ranges (first :: rest)))
  | except {first : Char} {rest : List Char} (closed : ']' ∉ rest) :
      ClassText ('!' :: first :: rest) (.except (ranges (first :: rest)))

/-- A class ends at the first `]` after its first character. -/
theorem cutClass?_eq_some_iff {text inner after : List Char} :
    cutClass? text = some (inner, after) ↔
      ∃ first rest, inner = first :: rest ∧ ']' ∉ rest ∧ text = inner ++ ']' :: after := by
  constructor
  · intro cut
    cases text with
    | nil => cases cut
    | cons first tail =>
        have whole : tail.takeWhile (· != ']') ++ tail.dropWhile (· != ']') = tail :=
          List.takeWhile_append_dropWhile
        have closed : ']' ∉ tail.takeWhile (· != ']') := by
          intro member
          simpa using List.mem_takeWhile_imp member
        have stop := List.head?_dropWhile_not (· != ']') tail
        rw [cutClass?, List.span_eq_takeWhile_dropWhile] at cut
        cases ended : tail.dropWhile (· != ']') with
        | nil => simp [ended] at cut
        | cons last rest =>
            rw [ended] at cut stop whole
            have separator : last = ']' := by simpa using stop
            subst separator
            cases cut
            exact ⟨first, _, rfl, closed, by rw [List.cons_append, whole]⟩
  · rintro ⟨first, rest, rfl, closed, rfl⟩
    have plain : ∀ c ∈ rest, (c != ']') = true := by
      intro c member
      rw [bne_iff_ne]
      exact fun same => closed (same ▸ member)
    rw [List.cons_append, cutClass?, List.span_eq_takeWhile_dropWhile,
      List.takeWhile_append_of_pos plain, List.dropWhile_append_of_pos plain]
    simp

theorem readClass?_eq_some_iff {text after : List Char} {item : Item} :
    readClass? text = some (item, after) ↔
      ∃ inner, ClassText inner item ∧ text = inner ++ ']' :: after := by
  unfold readClass?
  split
  · next rest =>
      constructor
      · intro read
        obtain ⟨⟨inner, _⟩, cut, same⟩ := Option.map_eq_some_iff.mp read
        cases same
        obtain ⟨first, tail, rfl, closed, rfl⟩ := cutClass?_eq_some_iff.mp cut
        exact ⟨_, .except closed, rfl⟩
      · rintro ⟨inner, opens, shape⟩
        cases opens with
        | within plain =>
            cases shape
            contradiction
        | except closed =>
            rw [List.cons_append, List.cons.injEq] at shape
            rw [cutClass?_eq_some_iff.mpr ⟨_, _, rfl, closed, shape.2⟩]
            rfl
  · next notNegated =>
      constructor
      · intro read
        obtain ⟨⟨inner, _⟩, cut, same⟩ := Option.map_eq_some_iff.mp read
        cases same
        obtain ⟨first, tail, rfl, closed, rfl⟩ := cutClass?_eq_some_iff.mp cut
        exact ⟨_, .within (fun same => notNegated _ (by rw [same]; rfl)) closed, rfl⟩
      · rintro ⟨inner, opens, rfl⟩
        cases opens with
        | within plain closed =>
            rw [cutClass?_eq_some_iff.mpr ⟨_, _, rfl, closed, rfl⟩]
            rfl
        | except => exact absurd rfl (notNegated _)

/-! ## Patterns -/

/-- A text reads as items; `atStart` says whether a component starts there. -/
inductive Reads : (atStart : Bool) → (text : List Char) → (items : List Item) → Prop where
  | nil {atStart : Bool} : Reads atStart [] []
  | letter {atStart : Bool} {c : Char} {rest : List Char} {items : List Item}
      (notRun : c ≠ '*') (notClass : c ≠ '[') (later : Reads (c == '/') rest items) :
      Reads atStart (c :: rest) ((if c = '?' then .anyLetter else .letter c) :: items)
  | anyRun {atStart : Bool} {rest : List Char} {items : List Item}
      (single : rest.head? ≠ some '*') (later : Reads false rest items) :
      Reads atStart ('*' :: rest) (.anyRun :: items)
  /-- Any number of directories at the end. -/
  | lastDirectories : Reads true ['*', '*'] [.anyDirectories]
  /-- Any number of directories, and what is below them. -/
  | directories {rest : List Char} {items : List Item} (later : Reads true rest items) :
      Reads true ('*' :: '*' :: '/' :: rest) (.anyDirectories :: items)
  | bracketed {atStart : Bool} {text inner rest : List Char} {item : Item} {items : List Item}
      (opens : ClassText inner item) (shape : text = inner ++ ']' :: rest)
      (later : Reads false rest items) : Reads atStart ('[' :: text) (item :: items)

theorem reads_nil_iff {atStart : Bool} {items : List Item} :
    Reads atStart [] items ↔ items = [] := by
  constructor
  · rintro ⟨⟩
    rfl
  · rintro rfl
    exact .nil

theorem reads_letter_iff {atStart : Bool} {c : Char} {rest : List Char} {items : List Item}
    (notRun : c ≠ '*') (notClass : c ≠ '[') :
    Reads atStart (c :: rest) items ↔ ∃ later, Reads (c == '/') rest later ∧
      (if c = '?' then .anyLetter else .letter c) :: later = items := by
  constructor
  · intro reads
    cases reads with
    | letter _ _ later => exact ⟨_, later, rfl⟩
    | anyRun | lastDirectories | directories => contradiction
    | bracketed => contradiction
  · rintro ⟨later, reads, rfl⟩
    exact .letter notRun notClass reads

theorem reads_anyRun_iff {atStart : Bool} {rest : List Char} {items : List Item}
    (single : rest.head? ≠ some '*') :
    Reads atStart ('*' :: rest) items ↔
      ∃ later, Reads false rest later ∧ .anyRun :: later = items := by
  constructor
  · intro reads
    cases reads with
    | letter notRun => contradiction
    | anyRun _ later => exact ⟨_, later, rfl⟩
    | lastDirectories | directories => simp at single
  · rintro ⟨later, reads, rfl⟩
    exact .anyRun single reads

theorem reads_directories_iff {atStart : Bool} {rest : List Char} {items : List Item} :
    Reads atStart ('*' :: '*' :: rest) items ↔ atStart = true ∧
      (rest = [] ∧ [.anyDirectories] = items ∨
        ∃ below later, rest = '/' :: below ∧ Reads true below later ∧
          .anyDirectories :: later = items) := by
  constructor
  · intro reads
    cases reads with
    | letter notRun => contradiction
    | anyRun single => simp at single
    | lastDirectories => exact ⟨rfl, .inl ⟨rfl, rfl⟩⟩
    | directories later => exact ⟨rfl, .inr ⟨_, _, rfl, later, rfl⟩⟩
  · rintro ⟨rfl, ⟨rfl, rfl⟩ | ⟨below, later, rfl, reads, rfl⟩⟩
    · exact .lastDirectories
    · exact .directories reads

theorem reads_class_iff {atStart : Bool} {text : List Char} {items : List Item} :
    Reads atStart ('[' :: text) items ↔ ∃ item after later,
      readClass? text = some (item, after) ∧ Reads false after later ∧ item :: later = items := by
  constructor
  · intro reads
    cases reads with
    | letter _ notClass => contradiction
    | bracketed opens shape later =>
        exact ⟨_, _, _, readClass?_eq_some_iff.mpr ⟨_, opens, shape⟩, later, rfl⟩
  · rintro ⟨item, after, later, read, reads, rfl⟩
    obtain ⟨inner, opens, shape⟩ := readClass?_eq_some_iff.mp read
    exact .bracketed opens shape reads

theorem cons_eq_ok_iff {read : Except PatternError (List Item)} {item : Item}
    {items : List Item} :
    (do let later ← read; return item :: later) = Except.ok items ↔
      ∃ later, read = .ok later ∧ item :: later = items := by
  rw [bind_eq_ok_iff]
  simp [pure, Except.pure]

/-- With fuel for all characters, the reader finds the items as which a text reads. -/
theorem readItems_eq_ok_iff {fuel position : Nat} {atStart : Bool} {text : List Char}
    {items : List Item} (enough : text.length < fuel) :
    readItems fuel position atStart text = .ok items ↔ Reads atStart text items := by
  fun_induction readItems fuel position atStart text generalizing items with
  | case1 => cases enough
  | case2 =>
      rw [reads_nil_iff]
      simp [eq_comm]
  | case3 => simp [reads_directories_iff]
  | case4 fuel position atStart rest notThird inside =>
      rw [Bool.not_eq_true'] at inside
      simp [reads_directories_iff, inside]
  | case5 fuel position atStart starts =>
      rw [Bool.not_eq_true', Bool.not_eq_false] at starts
      simp [reads_directories_iff, starts]
  | case6 fuel position atStart starts rest _ ih =>
      rw [Bool.not_eq_true', Bool.not_eq_false] at starts
      rw [cons_eq_ok_iff, reads_directories_iff]
      have inner : rest.length < fuel := by
        simp only [List.length_cons] at enough
        omega
      simp [ih inner, starts]
  | case7 fuel position atStart rest _ _ notEnd notSeparator =>
      rw [reads_directories_iff]
      constructor
      · rintro ⟨⟩
      · rintro ⟨-, ⟨rfl, -⟩ | ⟨below, later, rfl, -⟩⟩
        · exact absurd rfl notEnd
        · exact absurd rfl (notSeparator below)
  | case8 fuel position atStart rest _ single ih =>
      have alone : rest.head? ≠ some '*' := by
        intro doubled
        obtain ⟨tail, shape⟩ := List.head?_eq_some_iff.mp doubled
        exact single tail shape
      rw [cons_eq_ok_iff, reads_anyRun_iff alone]
      simp only [ih (Nat.lt_of_succ_lt_succ enough)]
  | case9 fuel position atStart text unclosed =>
      simp [reads_class_iff, unclosed]
  | case10 atStart fuel position text item after read width =>
      rename_i ih
      have shorter : after.length < fuel := by
        obtain ⟨inner, -, rfl⟩ := readClass?_eq_some_iff.mp read
        simp only [List.length_cons, List.length_append] at enough
        omega
      rw [cons_eq_ok_iff, reads_class_iff]
      simp [read, ih shorter]
  | case11 atStart fuel position c rest notRun notClass ih =>
      rw [cons_eq_ok_iff, reads_letter_iff notRun notClass]
      simp only [ih (Nat.lt_of_succ_lt_succ enough)]

theorem parseItems_eq_ok_iff {text : String} {items : List Item} :
    parseItems text = .ok items ↔ Reads true text.toList items :=
  readItems_eq_ok_iff (Nat.lt_succ_self _)

/-- A pattern that stands for one text only stands for its own. -/
theorem Reads.literal?_eq {atStart : Bool} {text : List Char} {items : List Item}
    (reads : Reads atStart text items) {only : List Char} (literal : literal? items = some only) :
    only = text := by
  induction reads generalizing only with
  | nil =>
      cases literal
      rfl
  | @letter atStart c rest items _ _ later ih =>
      by_cases any : c = '?'
      · rw [if_pos any] at literal
        cases literal
      · rw [if_neg any, literal?, Option.map_eq_some_iff] at literal
        obtain ⟨others, same, rfl⟩ := literal
        rw [ih same]
  | anyRun | lastDirectories | directories => cases literal
  | bracketed opens => cases opens <;> cases literal

/-! ## Escaped texts -/

/-- The character has a meaning in patterns. -/
def isSign (c : Char) : Bool := c == '?' || c == '*' || c == '[' || c == ']'

/-- A character in an escaped text. -/
def escapeLetter (c : Char) : List Char := if isSign c then ['[', c, ']'] else [c]

/-- What a character in an escaped text is read as. -/
def literalItem (c : Char) : Item := if isSign c then .within [⟨c, c⟩] else .letter c

theorem toList_escape (text : String) :
    (escape text).toList = text.toList.flatMap escapeLetter := String.toList_ofList

/-- What is escaped is read as it stands. -/
theorem reads_escape (atStart : Bool) (text : List Char) :
    Reads atStart (text.flatMap escapeLetter) (text.map literalItem) := by
  induction text generalizing atStart with
  | nil => exact .nil
  | cons c rest ih =>
      rw [List.flatMap_cons, List.map_cons, escapeLetter, literalItem]
      split
      · next sign =>
          have opens : ClassText [c] (.within (ranges [c])) := by
            refine .within ?_ List.not_mem_nil
            rintro rfl
            cases sign
          exact .bracketed opens rfl (ih false)
      · next plain =>
          simp only [isSign, Bool.or_eq_true, beq_iff_eq, not_or] at plain
          obtain ⟨⟨⟨notAny, notRun⟩, notClass⟩, -⟩ := plain
          have reads := @Reads.letter atStart _ _ _ notRun notClass (ih (c == '/'))
          rwa [if_neg notAny] at reads

/-! ## Names that match what is escaped -/

theorem row_ne_nil (text : List Char) (items : List Item) : row text items ≠ [] := by
  induction items with
  | nil => simp [row]
  | cons item items ih =>
      obtain ⟨head, tail, shape⟩ := List.exists_cons_of_ne_nil ih
      cases item <;> simp [row, shape, anyRunRow]

/-- The row of a text goes on with the row of its tail. -/
theorem exists_row_cons (c : Char) (text : List Char) (items : List Item) :
    ∃ head, row (c :: text) items = head :: row text items := by
  induction items with
  | nil => exact ⟨false, by simp [row, List.replicate_succ]⟩
  | cons item items ih =>
      obtain ⟨head, longer⟩ := ih
      obtain ⟨next, tail, shape⟩ := List.exists_cons_of_ne_nil (row_ne_nil text items)
      cases item <;> simp [row, longer, shape, anyRunRow]

theorem accepts_literalItem (wanted c : Char) :
    (literalItem wanted).accepts c = true ↔ wanted = c := by
  rw [literalItem]
  split
  · rw [Item.accepts, holds, List.any_cons, List.any_nil, Bool.or_false, Bool.and_eq_true,
      decide_eq_true_eq, decide_eq_true_eq]
    constructor
    · intro within
      exact Char.le_antisymm within.1 within.2
    · rintro rfl
      exact ⟨Char.le_refl _, Char.le_refl _⟩
  · exact beq_iff_eq

theorem row_literalItem (wanted : Char) (items : List Item) (text : List Char) :
    row text (literalItem wanted :: items) =
      List.zipWith (fun c matchesAfter => (literalItem wanted).accepts c && matchesAfter) text
        ((row text items).drop 1) ++ [false] := by
  rw [literalItem]
  split <;> rfl

theorem headD_row_literalItem_iff (wanted : Char) (items : List Item) (text : List Char) :
    (row text (literalItem wanted :: items)).headD false = true ↔
      ∃ rest, text = wanted :: rest ∧ (row rest items).headD false = true := by
  rw [row_literalItem]
  cases text with
  | nil => simp
  | cons c rest =>
      obtain ⟨head, longer⟩ := exists_row_cons c rest items
      obtain ⟨next, tail, shape⟩ := List.exists_cons_of_ne_nil (row_ne_nil rest items)
      rw [longer, List.drop_one, List.tail_cons, shape, List.zipWith_cons_cons, List.cons_append,
        List.headD_cons, Bool.and_eq_true, accepts_literalItem]
      constructor
      · rintro ⟨rfl, matched⟩
        exact ⟨rest, rfl, by rwa [shape]⟩
      · rintro ⟨others, same, matched⟩
        cases same
        rw [shape] at matched
        exact ⟨rfl, matched⟩

/-- A name matches an escaped text only if it is that text. -/
theorem isMatch_literalItem_iff {wanted : List Char} {name : String} :
    isMatch (wanted.map literalItem) name = true ↔ name.toList = wanted := by
  rw [isMatch]
  generalize name.toList = text
  induction wanted generalizing text with
  | nil => cases text <;> simp [row, List.replicate_succ]
  | cons c wanted ih =>
      rw [List.map_cons, headD_row_literalItem_iff]
      constructor
      · rintro ⟨rest, rfl, matched⟩
        rw [(ih rest).mp matched]
      · rintro rfl
        exact ⟨wanted, rfl, (ih wanted).mpr rfl⟩

end Guidebook.Glob
