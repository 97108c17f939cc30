import Guidebook.Proofs.Grammar

/-!
# What a wildcard matches

A pattern is matched from its end, for all tails of a text at once.  This module reads
the answer for the whole text off these rows, and shows what it means: the text is made
of the pieces of the pattern, up to case, with anything but line feeds between them.
-/

namespace Guidebook.Query

/-- Two texts are the same letter by letter up to simple case folding. -/
def FoldsAlike (left right : List Char) : Prop :=
  left.map Text.foldChar = right.map Text.foldChar

instance (left right : List Char) : Decidable (FoldsAlike left right) :=
  inferInstanceAs (Decidable (_ = _))

/-- A text that is made of pieces, in order and each up to simple case folding, and of gaps
between them that hold no line feed. -/
inductive Interleaves : (pieces : List (List Char)) → (text : List Char) → Prop where
  | last {piece literal : List Char} (alike : FoldsAlike piece literal) :
      Interleaves [piece] literal
  | next {piece literal gap rest : List Char} {pieces : List (List Char)}
      (alike : FoldsAlike piece literal) (unbroken : '\n' ∉ gap)
      (later : Interleaves pieces rest) :
      Interleaves (piece :: pieces) (literal ++ gap ++ rest)

namespace Wildcard

/-! ## Rows -/

/-- The row of a text goes on with the row of its tail. -/
theorem row_cons (c : Char) (text pattern : List Char) :
    row (c :: text) pattern = isMatch pattern (c :: text) :: row text pattern := by
  unfold isMatch
  induction pattern with
  | nil => rfl
  | cons letter pattern ih =>
      by_cases star : letter = '*'
      · simp only [row, star, if_true]
        rw [ih]
        rfl
      · simp only [row, star, if_false]
        rw [ih]
        rfl

/-! ## Matches -/

theorem isMatch_nil (text : List Char) : isMatch [] text = text.isEmpty := by
  cases text <;> rfl

theorem isMatch_star_nil (pattern : List Char) :
    isMatch ('*' :: pattern) [] = isMatch pattern [] := by
  simp [isMatch, row, anyRow]

theorem isMatch_star_cons (pattern : List Char) (c : Char) (text : List Char) :
    isMatch ('*' :: pattern) (c :: text) =
      (isMatch pattern (c :: text) || (c != '\n' && isMatch ('*' :: pattern) text)) := by
  rw [isMatch, row, if_pos rfl, row_cons, anyRow]
  simp [isMatch, row]

theorem isMatch_letter_nil {letter : Char} (plain : letter ≠ '*') (pattern : List Char) :
    isMatch (letter :: pattern) [] = false := by
  simp [isMatch, row, plain, literalRow]

theorem isMatch_letter_cons {letter : Char} (plain : letter ≠ '*') (pattern : List Char) (c : Char)
    (text : List Char) :
    isMatch (letter :: pattern) (c :: text) =
      (Text.sameFold letter c && isMatch pattern text) := by
  rw [isMatch, row, if_neg plain, row_cons, literalRow]
  simp [isMatch]

/-- A star stands for a gap: any run of characters but line feeds, also for none. -/
theorem isMatch_star_iff {pattern text : List Char} :
    isMatch ('*' :: pattern) text = true ↔
      ∃ gap rest, text = gap ++ rest ∧ '\n' ∉ gap ∧ isMatch pattern rest = true := by
  induction text with
  | nil =>
      rw [isMatch_star_nil]
      constructor
      · intro matched
        exact ⟨[], [], rfl, List.not_mem_nil, matched⟩
      · intro spread
        obtain ⟨gap, rest, whole, -, matched⟩ := spread
        obtain ⟨rfl, rfl⟩ := List.append_eq_nil_iff.mp whole.symm
        exact matched
  | cons c text ih =>
      rw [isMatch_star_cons, Bool.or_eq_true, Bool.and_eq_true, ih, bne_iff_ne]
      constructor
      · intro matched
        cases matched with
        | inl here => exact ⟨[], c :: text, rfl, List.not_mem_nil, here⟩
        | inr later =>
            obtain ⟨solid, gap, rest, whole, unbroken, matched⟩ := later
            refine ⟨c :: gap, rest, by rw [whole]; rfl, ?_, matched⟩
            rw [List.mem_cons, not_or]
            exact ⟨solid.symm, unbroken⟩
      · intro spread
        obtain ⟨gap, rest, whole, unbroken, matched⟩ := spread
        cases gap with
        | nil =>
            left
            rw [whole]
            exact matched
        | cons first gap =>
            cases whole
            rw [List.mem_cons, not_or] at unbroken
            exact .inr ⟨Ne.symm unbroken.1, gap, rest, rfl, unbroken.2, matched⟩

end Wildcard

/-! ## Pieces -/

theorem interleaves_singleton_iff {piece text : List Char} :
    Interleaves [piece] text ↔ FoldsAlike piece text := by
  constructor
  · intro interleaves
    cases interleaves with
    | last alike => exact alike
    | next alike unbroken later => cases later
  · exact .last

theorem foldsAlike_nil_iff {text : List Char} : FoldsAlike [] text ↔ text = [] := by
  simp [FoldsAlike, eq_comm]

theorem foldsAlike_cons_iff {letter : Char} {piece text : List Char} :
    FoldsAlike (letter :: piece) text ↔
      ∃ c rest, text = c :: rest ∧ Text.sameFold letter c = true ∧ FoldsAlike piece rest := by
  simp only [FoldsAlike, List.map_cons, Text.sameFold, beq_iff_eq]
  cases text with
  | nil => simp
  | cons c rest => simp [and_assoc]

/-- A piece with no letters and what comes after it: a gap, and the other pieces. -/
theorem interleaves_nil_cons_iff {pieces : List (List Char)} {text : List Char}
    (more : pieces ≠ []) :
    Interleaves ([] :: pieces) text ↔
      ∃ gap rest, text = gap ++ rest ∧ '\n' ∉ gap ∧ Interleaves pieces rest := by
  constructor
  · intro interleaves
    cases interleaves with
    | last => exact absurd rfl more
    | @next _ literal gap rest _ alike unbroken later =>
        rw [foldsAlike_nil_iff.mp alike]
        exact ⟨gap, rest, rfl, unbroken, later⟩
  · intro spread
    obtain ⟨gap, rest, rfl, unbroken, later⟩ := spread
    have alike : FoldsAlike [] [] := rfl
    exact .next alike unbroken later

/-- The first letter of a piece is the first character, up to case. -/
theorem interleaves_cons_cons_iff {letter : Char} {piece : List Char}
    {pieces : List (List Char)} {text : List Char} :
    Interleaves ((letter :: piece) :: pieces) text ↔
      ∃ c rest, text = c :: rest ∧ Text.sameFold letter c = true ∧
        Interleaves (piece :: pieces) rest := by
  constructor
  · intro interleaves
    cases interleaves with
    | last alike =>
        obtain ⟨c, rest, rfl, same, alike⟩ := foldsAlike_cons_iff.mp alike
        exact ⟨c, rest, rfl, same, .last alike⟩
    | next alike unbroken later =>
        obtain ⟨c, literal, rfl, same, alike⟩ := foldsAlike_cons_iff.mp alike
        exact ⟨c, _, rfl, same, .next alike unbroken later⟩
  · intro matched
    obtain ⟨c, rest, rfl, same, interleaves⟩ := matched
    cases interleaves with
    | last alike => exact .last (foldsAlike_cons_iff.mpr ⟨c, rest, rfl, same, alike⟩)
    | @next _ literal gap rest _ alike unbroken later =>
        have longer := foldsAlike_cons_iff.mpr ⟨c, literal, rfl, same, alike⟩
        exact .next longer unbroken later

/-- A text matches a pattern exactly when it is made of the pieces between the stars of the
pattern and of gaps between them. -/
theorem Wildcard.isMatch_iff {pattern text : List Char} :
    isMatch pattern text = true ↔ Interleaves (Text.pieces '*' pattern) text := by
  induction pattern generalizing text with
  | nil =>
      rw [isMatch_nil, List.isEmpty_iff, Text.pieces, interleaves_singleton_iff,
        foldsAlike_nil_iff]
  | cons letter pattern ih =>
      rw [Text.pieces]
      by_cases star : letter = '*'
      · subst star
        rw [if_pos rfl, isMatch_star_iff,
          interleaves_nil_cons_iff (Text.pieces_ne_nil '*' pattern)]
        simp only [ih]
      · rw [if_neg star]
        obtain ⟨piece, others, cut⟩ :=
          List.exists_cons_of_ne_nil (Text.pieces_ne_nil '*' pattern)
        rw [cut] at ih ⊢
        rw [interleaves_cons_cons_iff]
        cases text with
        | nil => simp [isMatch_letter_nil star]
        | cons c text => simp [isMatch_letter_cons star, ih, and_assoc]

/-! ## Terms -/

theorem Term.field_eq_tag {term : Term} (tagged : term.key = "tag") : term.field = .tag := by
  rw [Term.field, tagged]
  rfl

theorem Term.isWildcard_iff {term : Term} (tagged : term.key = "tag") :
    term.isWildcard = true ↔ '*' ∈ term.value.toList ∧ term.value ≠ "*" := by
  simp [isWildcard, isTagKey, field_eq_tag tagged, isExistenceCheck, and_comm]

/-- A term about tags accepts the summaries with a tag that matches its value, unless it asks
only whether there are tags. -/
theorem Term.accepts_tag {term : Term} (tagged : term.key = "tag") (plain : term.negated = false)
    (valued : term.value ≠ "*") (summary : Summary) :
    term.accepts summary = summary.tags.any term.matchesTag := by
  simp [accepts, plain, asks, isExistenceCheck, valued, holdsValueIn, field_eq_tag tagged]

/-- A wildcard over tags accepts the summaries with a tag that is made of the pieces between
the stars of the wildcard, each up to simple case folding, and of gaps between them that hold
no line feed. -/
theorem accepts_wildcard_iff [Wildcard.Compiler] {key value : String} {term : Term}
    (compiles : Term.make key value false = .ok term) (tagged : term.key = "tag")
    (starred : '*' ∈ value.toList) (more : value ≠ "*") (summary : Summary) :
    term.accepts summary = true ↔
      ∃ tag ∈ summary.tags, Interleaves (Text.pieces '*' value.toList) tag.toList := by
  obtain ⟨rfl, -⟩ := make_eq_ok_iff.mp compiles
  have wild := (Term.isWildcard_iff tagged).mpr ⟨starred, more⟩
  rw [Term.accepts_tag tagged rfl more, List.any_eq_true]
  simp only [Term.matchesTag, wild, if_true, Wildcard.isMatch_iff]

section

attribute [local instance] Wildcard.Compiler.bounded

theorem accepts_wildcard_iff_sigma :
    let value := "a.*A*σ"
    let summary : Summary := ⟨"x", .recipe, none, ["b", "A.Aa-Σ"], ""⟩
    Term.make "Tag" value false = .ok ⟨"tag", value, false⟩ ∧
      Interleaves (Text.pieces '*' value.toList) "A.Aa-Σ".toList ∧
      Term.accepts ⟨"tag", value, false⟩ summary = true := by
  intro value summary
  have compiles : Term.make "Tag" value false = .ok ⟨"tag", value, false⟩ :=
    make_eq_ok_iff.mpr ⟨by decide, by decide⟩
  have pieces : Text.pieces '*' value.toList = [['a', '.'], ['A'], ['σ']] := by decide
  have tag : "A.Aa-Σ".toList = ['A', '.'] ++ [] ++ (['A'] ++ ['a', '-'] ++ ['Σ']) := by decide
  have spread : Interleaves (Text.pieces '*' value.toList) "A.Aa-Σ".toList := by
    rw [pieces, tag]
    have dotted : FoldsAlike ['a', '.'] ['A', '.'] := by decide
    have sigma : FoldsAlike ['σ'] ['Σ'] := by decide
    exact .next dotted (by decide) (.next rfl (by decide) (.last sigma))
  refine ⟨compiles, spread, ?_⟩
  have accepted := accepts_wildcard_iff compiles rfl (by decide) (by decide) summary
  exact accepted.mpr ⟨_, by simp [summary], spread⟩

end

end Guidebook.Query
