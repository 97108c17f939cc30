import Guidebook.Text.Blank

/-!
# The words of a text

`Text.words` reads a text once and looks one character ahead.  This module says
which lists of words it finds without reference to that reading: the words that
stand in the text between blanks, each a whole run of characters that are not
blank.
-/

namespace Guidebook.Text

/-- A character alone between blanks is a word. -/
theorem words_cons_of_ended {c : Char} (solid : isBlank c = false) {rest : List Char}
    (ended : ∀ next ∈ rest.head?, isBlank next = true) : words (c :: rest) = [c] :: words rest := by
  rw [words.eq_def]
  simp only [solid, Bool.false_eq_true, if_false]
  cases rest with
  | nil => rfl
  | cons next text => simp only [ended next rfl, if_true]

/-- A character before a word belongs to the word. -/
theorem words_cons_of_solid {c next : Char} (solid : isBlank c = false)
    (joined : isBlank next = false) {text word : List Char} {others : List (List Char)}
    (found : words (next :: text) = word :: others) :
    words (c :: next :: text) = (c :: word) :: others := by
  rw [words.eq_def]
  simp only [solid, joined, found, Bool.false_eq_true, if_false]

/-- Words that stand in a text, with blanks between them and around them. -/
inductive Spaced : (text : List Char) → (found : List (List Char)) → Prop where
  | blank {gap : List Char} (blank : allBlank gap = true) : Spaced gap []
  | word {gap word rest : List Char} {others : List (List Char)}
      (blank : allBlank gap = true) (nonempty : word ≠ [])
      (solid : ∀ c ∈ word, isBlank c = false)
      (ended : ∀ c ∈ rest.head?, isBlank c = true) (later : Spaced rest others) :
      Spaced (gap ++ word ++ rest) (word :: others)

/-- Blanks before a text that has words in it. -/
theorem Spaced.cons_blank {c : Char} (blank : isBlank c = true) {text : List Char}
    {found : List (List Char)} (spaced : Spaced text found) : Spaced (c :: text) found := by
  cases spaced with
  | blank all => exact .blank (by simp [blank, all])
  | word all nonempty solid ended later =>
      rw [List.append_assoc, ← List.cons_append, ← List.append_assoc]
      exact .word (by simp [blank, all]) nonempty solid ended later

theorem Spaced.cons_solid {c next : Char} (solid : isBlank c = false)
    (joined : isBlank next = false) {text : List Char} {found : List (List Char)}
    (spaced : Spaced (next :: text) found) :
    ∃ word others, found = word :: others ∧
      Spaced (c :: next :: text) ((c :: word) :: others) := by
  generalize same : next :: text = whole at spaced
  cases spaced with
  | blank all =>
      rw [← same, allBlank_cons, joined] at all
      cases all
  | @word gap word rest others all nonempty wordSolid ended later =>
      cases gap with
      | nil =>
          refine ⟨word, others, rfl, ?_⟩
          change Spaced ([] ++ (c :: word) ++ rest) _
          refine .word rfl (List.cons_ne_nil c word) ?_ ended later
          intro letter member
          rcases List.mem_cons.mp member with rfl | later
          · exact solid
          · exact wordSolid letter later
      | cons first gap =>
          rw [List.cons_append, List.cons_append] at same
          cases same
          rw [allBlank_cons, joined] at all
          cases all

theorem spaced_words (text : List Char) : Spaced text (words text) := by
  induction text with
  | nil => exact .blank rfl
  | cons c rest ih =>
      cases blank : isBlank c with
      | true =>
          rw [words_of_isBlank blank]
          exact ih.cons_blank blank
      | false =>
          have alone (ended : ∀ next ∈ rest.head?, isBlank next = true) :
              Spaced (c :: rest) (words (c :: rest)) := by
            rw [words_cons_of_ended blank ended]
            change Spaced ([] ++ [c] ++ rest) _
            exact .word rfl (List.cons_ne_nil c []) (by simpa using blank) ended ih
          cases rest with
          | nil => exact alone (by simp)
          | cons next text =>
              cases joined : isBlank next with
              | true => exact alone (by simpa using joined)
              | false =>
                  obtain ⟨word, others, found, spaced⟩ := ih.cons_solid blank joined
                  rw [words_cons_of_solid blank joined found]
                  exact spaced

theorem words_append_of_allBlank {gap : List Char} (blank : allBlank gap = true)
    (text : List Char) : words (gap ++ text) = words text := by
  induction gap with
  | nil => rfl
  | cons c gap ih =>
      rw [allBlank_cons, Bool.and_eq_true] at blank
      rw [List.cons_append, words_of_isBlank blank.1, ih blank.2]

theorem words_append_of_solid {word rest : List Char} (nonempty : word ≠ [])
    (solid : ∀ c ∈ word, isBlank c = false) (ended : ∀ c ∈ rest.head?, isBlank c = true) :
    words (word ++ rest) = word :: words rest := by
  induction word with
  | nil => contradiction
  | cons c word ih =>
      have head := solid c List.mem_cons_self
      cases word with
      | nil => exact words_cons_of_ended head ended
      | cons next word =>
          have later := ih (List.cons_ne_nil next word) fun letter member =>
            solid letter (List.mem_cons_of_mem c member)
          exact words_cons_of_solid head (solid next (by simp)) later

theorem words_of_solid {word : List Char} (nonempty : word ≠ [])
    (solid : ∀ c ∈ word, isBlank c = false) : words word = [word] := by
  have alone := words_append_of_solid nonempty solid
    (show ∀ c ∈ ([] : List Char).head?, isBlank c = true by simp)
  rwa [List.append_nil] at alone

/-- The words of a text are the only words that stand in it between blanks. -/
theorem words_eq_iff {text : List Char} {found : List (List Char)} :
    words text = found ↔ Spaced text found := by
  constructor
  · rintro rfl
    exact spaced_words text
  · intro spaced
    induction spaced with
    | blank blank => simpa using words_append_of_allBlank blank []
    | word blank nonempty solid ended later ih =>
        rw [List.append_assoc, words_append_of_allBlank blank,
          words_append_of_solid nonempty solid ended, ih]

/-- A blank stands between words. -/
theorem words_append_of_isBlank {c : Char} (blank : isBlank c = true) (left right : List Char) :
    words (left ++ c :: right) = words left ++ words right := by
  have spaced := spaced_words left
  generalize words left = found at spaced ⊢
  induction spaced with
  | blank gap =>
      rw [words_append_of_allBlank gap, words_of_isBlank blank]
      rfl
  | @word gap word rest others all nonempty solid ended later ih =>
      have stillEnded : ∀ d ∈ (rest ++ c :: right).head?, isBlank d = true := by
        cases rest with
        | nil => simpa using blank
        | cons next rest => simpa using ended
      rw [List.append_assoc, List.append_assoc, words_append_of_allBlank all,
        words_append_of_solid nonempty solid stillEnded, ih]
      rfl

/-- A word has characters, and none of them is blank. -/
theorem solid_of_mem_words {text word : List Char} (member : word ∈ words text) :
    word ≠ [] ∧ ∀ c ∈ word, isBlank c = false := by
  have spaced := spaced_words text
  generalize words text = found at spaced member
  induction spaced with
  | blank gap => cases member
  | word all nonempty solid ended later ih =>
      rcases List.mem_cons.mp member with rfl | further
      · exact ⟨nonempty, solid⟩
      · exact ih further

/-- Words may be put together to a text. -/
theorem exists_words_eq {found : List (List Char)}
    (solid : ∀ word ∈ found, word ≠ [] ∧ ∀ c ∈ word, isBlank c = false) :
    ∃ text, words text = found := by
  induction found with
  | nil => exact ⟨[], rfl⟩
  | cons word others ih =>
      obtain ⟨first, later⟩ := List.forall_mem_cons.mp solid
      obtain ⟨text, same⟩ := ih later
      refine ⟨word ++ ' ' :: text, ?_⟩
      rw [words_append_of_solid first.1 first.2 (by simp; decide), words_of_isBlank rfl, same]

end Guidebook.Text
