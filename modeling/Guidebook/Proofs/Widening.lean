import Guidebook.Proofs.CaseInsensitivity

/-!
# Values and the wildcards made from them

A tag is compared with a value in lower case, and with a wildcard by simple case folding,
letter by letter.  Letters that are equal in lower case are equal in folding, and only `İ`
stands apart: it is two characters in lower case, and folding leaves it alone.  So a star
before or after a value keeps the tags that equal the value up to case if `İ` stands at
the same places in the tag and in the value, and loses them otherwise.
-/

namespace Guidebook

namespace Text

/-- Simple case folding makes no letter to `İ`. -/
theorem foldRanges_avoid_dotted :
    ∀ range ∈ foldRanges, ∀ code ∈ range.codes, Char.ofNat (range.shifted code) ≠ 'İ' := by
  decide +kernel

theorem foldChar_eq_dotted_iff {c : Char} : foldChar c = 'İ' ↔ c = 'İ' := by
  constructor
  · intro folded
    by_cases capital : IsCapital c
    · have other := forall_ascii (fun c => foldChar c ≠ 'İ') (by decide)
        (ascii_of_isCapital capital)
      exact absurd folded other
    · rw [foldChar_eq_lookup capital] at folded
      rcases CaseRange.lookup_cases foldRanges c.toNat with ⟨range, member, held, sent⟩ | same
      · rw [sent] at folded
        exact absurd folded
          (foldRanges_avoid_dotted range member _ (CaseRange.mem_codes_of_holds held))
      · rw [same, Char.ofNat_toNat] at folded
        exact folded
  · intro dotted
    subst dotted
    decide

/-- A letter other than `İ` stays one letter in lower case, with the same folding. -/
theorem exists_lowerLetters_eq {c : Char} (plain : c ≠ 'İ') (before rest : List Char) :
    ∃ small, lowerLetters before c rest = [small] ∧ foldChar small = foldChar c := by
  unfold lowerLetters
  split
  · next sigma =>
      rw [beq_iff_eq] at sigma
      subst sigma
      refine ⟨lowerSigma before rest, rfl, ?_⟩
      unfold lowerSigma
      split <;> decide
  · exact ⟨smallLetter c, lowerChar_eq_smallLetter plain, foldChar_smallLetter c⟩

theorem lowerLetters_dotted (before rest : List Char) :
    lowerLetters before 'İ' rest = ['i', '\u0307'] := by
  rfl

/-- Every `İ` adds a character to the lower case. -/
theorem length_lowerAfter (before text : List Char) :
    (lowerAfter before text).length = text.length + text.count 'İ' := by
  induction text generalizing before with
  | nil => rfl
  | cons c rest ih =>
      have first : (lowerLetters before c rest).length = 1 + if c == 'İ' then 1 else 0 := by
        by_cases dotted : c = 'İ'
        · subst dotted
          rfl
        · obtain ⟨small, letters, -⟩ := exists_lowerLetters_eq dotted before rest
          simp [letters, dotted]
      rw [lowerAfter_cons, List.length_append, first, ih, List.count_cons, List.length_cons]
      omega

/-- Texts that are equal in lower case are equal in folding if they have `İ` at the same places. -/
theorem map_foldChar_of_lowerAfter_eq {left right before other : List Char}
    (same : lowerAfter before left = lowerAfter other right) (dotted : MarkedAlike 'İ' left right) :
    left.map foldChar = right.map foldChar := by
  induction left generalizing right before other with
  | nil =>
      cases right with
      | nil => rfl
      | cons d right => cases dotted
  | cons c left ih =>
      cases right with
      | nil => cases dotted
      | cons d right =>
          obtain ⟨heads, later⟩ := List.cons_eq_cons.mp dotted
          rw [lowerAfter_cons, lowerAfter_cons] at same
          by_cases first : c = 'İ'
          · have second : d = 'İ' := by simpa [first] using heads.symm
            subst first second
            rw [lowerLetters_dotted, lowerLetters_dotted, List.append_cancel_left_eq] at same
            rw [List.map_cons, List.map_cons, ih same later]
          · have second : d ≠ 'İ' := by simpa [first] using heads.symm
            obtain ⟨small, letters, folds⟩ := exists_lowerLetters_eq first before left
            obtain ⟨twin, twins, foldsToo⟩ := exists_lowerLetters_eq second other right
            rw [letters, twins, List.singleton_append, List.singleton_append] at same
            obtain ⟨equal, rest⟩ := List.cons_eq_cons.mp same
            rw [List.map_cons, List.map_cons, ← folds, ← foldsToo, equal, ih rest later]

end Text

namespace Query

/-! ## Wildcards made from a value -/

/-- A value with a star after it, before it, or on both sides. -/
def widenings (value : String) : List String :=
  [value ++ "*", "*" ++ value, "*" ++ value ++ "*"]

/-- Each piece stands in the text somewhere. -/
theorem Interleaves.exists_literal {pieces : List (List Char)} {piece text : List Char}
    (interleaves : Interleaves pieces text) (member : piece ∈ pieces) :
    ∃ start literal rest, text = start ++ literal ++ rest ∧ FoldsAlike piece literal := by
  induction interleaves with
  | @last piece literal alike =>
      rw [List.mem_singleton] at member
      subst member
      exact ⟨[], literal, [], by simp, alike⟩
  | @next piece literal gap rest pieces alike unbroken later ih =>
      cases member with
      | head => exact ⟨[], literal, gap ++ rest, by simp, alike⟩
      | tail _ member =>
          obtain ⟨start, other, after, rfl, same⟩ := ih member
          exact ⟨literal ++ gap ++ start, other, after, by simp, same⟩

/-- All gaps may be empty. -/
theorem interleaves_of_flatten {pieces : List (List Char)} {text : List Char}
    (nonempty : pieces ≠ []) (alike : FoldsAlike pieces.flatten text) :
    Interleaves pieces text := by
  induction pieces generalizing text with
  | nil => exact absurd rfl nonempty
  | cons piece pieces ih =>
      cases pieces with
      | nil =>
          rw [List.flatten_singleton] at alike
          exact .last alike
      | cons second pieces =>
          rw [List.flatten_cons, FoldsAlike, List.map_append] at alike
          obtain ⟨literal, rest, rfl, first, later⟩ := List.map_eq_append_iff.mp alike.symm
          have followed := ih (List.cons_ne_nil second pieces) later.symm
          have gapless := Interleaves.next first.symm List.not_mem_nil followed
          rwa [List.append_nil] at gapless

section

variable {value wide : String}

/-- The value is one piece of a wildcard made from it, and the other pieces are empty. -/
theorem pieces_of_mem_widenings (plain : '*' ∉ value.toList) (widened : wide ∈ widenings value) :
    value.toList ∈ Text.pieces '*' wide.toList ∧
      (Text.pieces '*' wide.toList).flatten = value.toList := by
  have alone := Text.pieces_of_not_mem plain
  have after := Text.pieces_append_separator '*' value.toList []
  simp only [widenings, List.mem_cons, List.not_mem_nil, or_false] at widened
  rcases widened with rfl | rfl | rfl
  · simp [after, alone, Text.pieces]
  · simp [alone, Text.pieces]
  · simp [after, alone, Text.pieces]

/-- Of the tags that equal a value up to case, a wildcard made from the value matches those that
have `İ` where the value has it. -/
theorem isMatch_widening_iff {tag : List Char} (plain : '*' ∉ value.toList)
    (widened : wide ∈ widenings value) (same : Text.lower tag = Text.lower value.toList) :
    Wildcard.isMatch wide.toList tag = true ↔ Text.MarkedAlike 'İ' tag value.toList := by
  obtain ⟨member, whole⟩ := pieces_of_mem_widenings plain widened
  rw [Wildcard.isMatch_iff]
  constructor
  · intro interleaves
    obtain ⟨start, literal, rest, rfl, alike⟩ := interleaves.exists_literal member
    have dotted := Text.MarkedAlike.of_map_eq (fun _ => Text.foldChar_eq_dotted_iff) alike
    -- The literal is as long as the value in lower case, so nothing stands around it.
    have lengths := congrArg List.length same
    have size := dotted.length_eq
    have dots := dotted.count_eq
    simp only [Text.lower, Text.length_lowerAfter, List.length_append, List.count_append]
      at lengths
    have bare : start = [] ∧ rest = [] := by
      rw [← List.length_eq_zero_iff, ← List.length_eq_zero_iff]
      omega
    rw [bare.1, bare.2, List.nil_append, List.append_nil]
    exact dotted.symm
  · intro dotted
    apply interleaves_of_flatten (Text.pieces_ne_nil '*' wide.toList)
    rw [whole]
    exact (Text.map_foldChar_of_lowerAfter_eq same dotted).symm

end

/-! ## Terms -/

theorem Term.matchesTag_iff {key value : String} {negated : Bool} (plain : '*' ∉ value.toList)
    (tag : String) :
    Term.matchesTag ⟨key, value, negated⟩ tag = true ↔
      Text.lower tag.toList = Text.lower value.toList := by
  simp [matchesTag, isWildcard, plain, equalsValue, Text.eqFold_eq]

/-- A wildcard made from a value that a tag equals accepts a summary when it matches a tag, also
when it is `*` and asks only whether there are tags. -/
theorem Term.accepts_widening_iff {key value wide : String} {summary : Summary}
    (tagged : key = "tag") (plain : '*' ∉ value.toList) (widened : wide ∈ widenings value)
    (equal : ∃ tag ∈ summary.tags, Text.lower tag.toList = Text.lower value.toList) :
    Term.accepts ⟨key, wide, false⟩ summary = true ↔
      ∃ tag ∈ summary.tags, Wildcard.isMatch wide.toList tag.toList = true := by
  subst tagged
  by_cases star : wide = "*"
  · subst star
    obtain ⟨tag, member, same⟩ := equal
    have empty := (pieces_of_mem_widenings plain widened).2
    rw [← empty] at same
    have bare : tag.toList = [] := by
      by_contra nonempty
      exact Text.lower_ne_nil nonempty same
    constructor
    · intro accepted
      refine ⟨tag, member, ?_⟩
      rw [bare]
      rfl
    · intro matched
      have tags : summary.tags ≠ [] := List.ne_nil_of_mem member
      simp [accepts, asks, isExistenceCheck, presentIn, field_eq_tag, tags]
  · have starred : '*' ∈ wide.toList := by
      simp only [widenings, List.mem_cons, List.not_mem_nil, or_false] at widened
      rcases widened with rfl | rfl | rfl <;> simp
    have wild : isWildcard ⟨"tag", wide, false⟩ = true :=
      (isWildcard_iff rfl).mpr ⟨starred, star⟩
    rw [accepts_tag rfl rfl star, List.any_eq_true]
    simp only [matchesTag, wild, if_true]

/-- A star before or after a value keeps the summaries with a tag that equals the value up to
case and has `İ` where the value has it.  Of those where all tags equal the value up to case,
it keeps no others. -/
theorem widened_accepts [Wildcard.Compiler] {key value wide : String} {exact term : Term}
    (compiles : Term.make key value false = .ok exact)
    (widens : Term.make key wide false = .ok term) (tagged : exact.key = "tag")
    (plain : '*' ∉ value.toList) (widened : wide ∈ widenings value) (summary : Summary)
    (accepted : exact.accepts summary = true) :
    ((∃ tag ∈ summary.tags,
        exact.matchesTag tag = true ∧ Text.MarkedAlike 'İ' tag.toList value.toList) →
      term.accepts summary = true) ∧
    ((∀ tag ∈ summary.tags, exact.matchesTag tag = true) →
      (term.accepts summary = true ↔
        ∃ tag ∈ summary.tags, Text.MarkedAlike 'İ' tag.toList value.toList)) := by
  obtain ⟨rfl, -⟩ := make_eq_ok_iff.mp compiles
  obtain ⟨rfl, -⟩ := make_eq_ok_iff.mp widens
  have solid : value ≠ "*" := by
    intro star
    exact plain (by simp [star])
  have equal : ∃ tag ∈ summary.tags, Text.lower tag.toList = Text.lower value.toList := by
    rw [Term.accepts_tag tagged rfl solid, List.any_eq_true] at accepted
    simpa only [Term.matchesTag_iff plain] using accepted
  rw [Term.accepts_widening_iff tagged plain widened equal]
  simp only [Term.matchesTag_iff plain]
  constructor
  · intro found
    obtain ⟨tag, member, same, dotted⟩ := found
    exact ⟨tag, member, (isMatch_widening_iff plain widened same).mpr dotted⟩
  · intro all
    apply exists_congr
    intro tag
    apply and_congr_right
    intro member
    exact isMatch_widening_iff plain widened (all tag member)

section

attribute [local instance] Wildcard.Compiler.bounded

theorem widened_accepts_sigma :
    let exact : Term := ⟨"tag", "İΣ", false⟩
    let wide : Term := ⟨"tag", "*İΣ*", false⟩
    let kept : Summary := ⟨"kept", .recipe, none, ["b", "İς"], ""⟩
    let lost : Summary := ⟨"lost", .recipe, none, ["i\u0307ς"], ""⟩
    Term.make "Tag" "İΣ" false = .ok exact ∧ Term.make "Tag" "*İΣ*" false = .ok wide ∧
      exact.accepts kept = true ∧ wide.accepts kept = true ∧
      exact.accepts lost = true ∧ wide.accepts lost = false := by
  intro exact wide kept lost
  have compiles : Term.make "Tag" "İΣ" false = .ok exact :=
    make_eq_ok_iff.mpr ⟨by decide, by decide⟩
  have widens : Term.make "Tag" "*İΣ*" false = .ok wide :=
    make_eq_ok_iff.mpr ⟨by decide, by decide⟩
  have plain : '*' ∉ "İΣ".toList := by decide
  have widened : "*İΣ*" ∈ widenings "İΣ" := by decide
  have keptExact : exact.accepts kept = true := by decide +kernel
  have lostExact : exact.accepts lost = true := by decide +kernel
  obtain ⟨keeps, -⟩ := widened_accepts compiles widens rfl plain widened kept keptExact
  obtain ⟨-, loses⟩ := widened_accepts compiles widens rfl plain widened lost lostExact
  have same : exact.matchesTag "İς" = true := by decide +kernel
  have single : exact.matchesTag "i\u0307ς" = true := by decide +kernel
  refine ⟨compiles, widens, keptExact, keeps ⟨"İς", by simp [kept], same, by decide⟩,
    lostExact, ?_⟩
  rw [Bool.eq_false_iff, ne_eq, loses (by simpa [lost] using single)]
  simp only [lost, List.mem_singleton, exists_eq_left]
  decide

/-- `İ` in lower case equals the value `İ`, and no wildcard made from the value matches it. -/
theorem widened_loses_dotted :
    let exact : Term := ⟨"tag", "İ", false⟩
    let summary : Summary := ⟨"a", .recipe, none, ["i\u0307"], ""⟩
    Term.make "tag" "İ" false = .ok exact ∧ exact.accepts summary = true ∧
      ∀ wide ∈ widenings "İ", Term.make "tag" wide false = .ok ⟨"tag", wide, false⟩ ∧
        Term.accepts ⟨"tag", wide, false⟩ summary = false := by
  intro exact summary
  simp only [make_eq_ok_iff]
  decide +kernel

end

end Query

end Guidebook
