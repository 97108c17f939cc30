import Guidebook.Proofs.Composition
import Guidebook.Proofs.Faults
import Guidebook.Proofs.SmallLetters
import Guidebook.Proofs.Wildcards
import Mathlib.Data.List.Forall2

/-!
# Queries and the case of ASCII letters

Two queries that differ in the case of ASCII letters only are read alike, or fail alike
at the same word, and accept the same summaries.  Four mechanisms have to agree for
this: connectives are compared up to ASCII case, keys are sent to lower case, values are
compared in lower case, and wildcards up to simple case folding.
-/

namespace Guidebook

namespace Text

/-! ## Texts -/

/-- Two texts differ at most in the case of ASCII letters. -/
def AsciiAlike (left right : List Char) : Prop :=
  left.map asciiLower = right.map asciiLower

instance (left right : List Char) : Decidable (AsciiAlike left right) :=
  inferInstanceAs (Decidable (_ = _))

/-- What does not tell the ASCII capitals from the small letters does not tell any two cases of
an ASCII letter apart. -/
theorem apply_asciiLower {β : Type} (property : Char → β)
    (checked : ∀ code < 128,
      property (asciiLower (Char.ofNat code)) = property (Char.ofNat code)) (c : Char) :
    property (asciiLower c) = property c := by
  by_cases capital : IsCapital c
  · exact forall_ascii (fun c => property (asciiLower c) = property c) checked
      (ascii_of_isCapital capital)
  · rw [asciiLower_of_not_isCapital capital]

@[simp] theorem isBlank_asciiLower (c : Char) : isBlank (asciiLower c) = isBlank c :=
  apply_asciiLower isBlank (by decide) c

@[simp] theorem isCased_asciiLower (c : Char) : isCased (asciiLower c) = isCased c :=
  apply_asciiLower isCased (by decide) c

@[simp] theorem isCaseIgnorable_asciiLower (c : Char) :
    isCaseIgnorable (asciiLower c) = isCaseIgnorable c :=
  apply_asciiLower isCaseIgnorable (by decide) c

@[simp] theorem lowerChar_asciiLower (c : Char) : lowerChar (asciiLower c) = lowerChar c :=
  apply_asciiLower lowerChar (by decide) c

@[simp] theorem foldChar_asciiLower (c : Char) : foldChar (asciiLower c) = foldChar c :=
  apply_asciiLower foldChar (by decide) c

/-- The characters that mean something in a query, and `Σ`, are no ASCII letters. -/
@[simp] theorem asciiLower_eq_iff {c mark : Char} (marks : mark ∈ [':', '-', '*', '\n', 'Σ']) :
    asciiLower c = mark ↔ c = mark := by
  have checked : ∀ code < 128,
      (asciiLower (Char.ofNat code) == mark) = (Char.ofNat code == mark) := by
    simp only [List.mem_cons, List.not_mem_nil, or_false] at marks
    rcases marks with rfl | rfl | rfl | rfl | rfl <;> decide
  have same := apply_asciiLower (· == mark) checked c
  simpa using congrArg (· = true) same

/-- Two texts are equally long and have a character at the same places. -/
def MarkedAlike (mark : Char) (left right : List Char) : Prop :=
  left.map (· == mark) = right.map (· == mark)

instance (mark : Char) (left right : List Char) : Decidable (MarkedAlike mark left right) :=
  inferInstanceAs (Decidable (_ = _))

namespace MarkedAlike

variable {mark : Char} {left right : List Char}

/-- The places of a character stay when the characters are replaced by others, but not it, and no
other by it. -/
theorem of_map_eq {image : Char → Char} (fixed : ∀ c, image c = mark ↔ c = mark)
    (same : left.map image = right.map image) : MarkedAlike mark left right := by
  have seen (text : List Char) :
      text.map (· == mark) = (text.map image).map (· == mark) := by
    rw [List.map_map]
    apply List.map_congr_left
    intro c member
    rw [Bool.eq_iff_iff]
    simp [fixed]
  rw [MarkedAlike, seen, same, ← seen]

theorem symm (marked : MarkedAlike mark left right) : MarkedAlike mark right left :=
  Eq.symm marked

theorem length_eq (marked : MarkedAlike mark left right) : left.length = right.length := by
  simpa using congrArg List.length marked

theorem mem_iff (marked : MarkedAlike mark left right) : mark ∈ left ↔ mark ∈ right := by
  have seen (text : List Char) : mark ∈ text ↔ true ∈ text.map (· == mark) := by simp
  rw [seen, marked, ← seen]

theorem head?_iff (marked : MarkedAlike mark left right) :
    left.head? = some mark ↔ right.head? = some mark := by
  have seen (text : List Char) :
      text.head? = some mark ↔ (text.map (· == mark)).head? = some true := by simp
  rw [seen, marked, ← seen]

theorem count_eq (marked : MarkedAlike mark left right) : left.count mark = right.count mark := by
  have seen (text : List Char) : text.count mark = (text.map (· == mark)).count true := by
    rw [List.count, List.count, List.countP_map]
    apply List.countP_congr
    intro c member
    simp
  rw [seen, marked, ← seen]

end MarkedAlike

/-- The words of a text in ASCII lower case. -/
theorem Spaced.map_asciiLower {text : List Char} {found : List (List Char)}
    (spaced : Spaced text found) :
    Spaced (text.map asciiLower) (found.map (·.map asciiLower)) := by
  induction spaced with
  | blank blank => exact .blank (by simpa [allBlank] using blank)
  | @word gap word rest others blank nonempty solid ended later ih =>
      rw [List.map_append, List.map_append, List.map_cons]
      refine .word (by simpa [allBlank] using blank) (by simpa using nonempty) ?_ ?_ ih
      · simpa using solid
      · simpa using ended

theorem AsciiAlike.forall₂_words {left right : List Char} (alike : AsciiAlike left right) :
    List.Forall₂ AsciiAlike (words left) (words right) := by
  have own := words_eq_iff.mpr (spaced_words left).map_asciiLower
  have other := words_eq_iff.mpr (spaced_words right).map_asciiLower
  rw [alike, other] at own
  have same : List.Forall₂ Eq ((words left).map (·.map asciiLower))
      ((words right).map (·.map asciiLower)) := by
    rw [List.forall₂_eq_eq_eq, own]
  rwa [List.forall₂_map_left_iff, List.forall₂_map_right_iff] at same

theorem lowerSigma_map_asciiLower (before after : List Char) :
    lowerSigma (before.map asciiLower) (after.map asciiLower) = lowerSigma before after := by
  have starts (text : List Char) : startsCased (text.map asciiLower) = startsCased text := by
    have ignored : isCaseIgnorable ∘ asciiLower = isCaseIgnorable :=
      funext isCaseIgnorable_asciiLower
    rw [startsCased, startsCased, List.dropWhile_map, ignored]
    cases text.dropWhile isCaseIgnorable <;> simp
  rw [lowerSigma, lowerSigma, starts, starts]

theorem lowerAfter_map_asciiLower (before text : List Char) :
    lowerAfter (before.map asciiLower) (text.map asciiLower) = lowerAfter before text := by
  induction text generalizing before with
  | nil => rfl
  | cons c rest ih =>
      have later := ih (c :: before)
      rw [List.map_cons] at later
      rw [List.map_cons, lowerAfter_cons, lowerAfter_cons, later]
      simp [lowerLetters, lowerSigma_map_asciiLower]

theorem AsciiAlike.lower_eq {left right : List Char} (alike : AsciiAlike left right) :
    lower left = lower right := by
  have own := lowerAfter_map_asciiLower [] left
  have other := lowerAfter_map_asciiLower [] right
  rw [alike] at own
  exact own.symm.trans other

/-- The comparison up to ASCII case decides nothing that the lower case would not. -/
theorem eqFold_eq (left right : List Char) : eqFold left right = (lower left == lower right) := by
  unfold eqFold eqAsciiFold
  by_cases alike : AsciiAlike left right
  · simp [show left.map asciiLower = right.map asciiLower from alike, alike.lower_eq]
  · simp [show ¬left.map asciiLower = right.map asciiLower from alike]

theorem eqFold_congr {left right other another : List Char} (alike : AsciiAlike left other)
    (likewise : AsciiAlike right another) : eqFold left right = eqFold other another := by
  rw [eqFold_eq, eqFold_eq, alike.lower_eq, likewise.lower_eq]

section

variable {left right : List Char} {mark : Char}

theorem AsciiAlike.symm (alike : AsciiAlike left right) : AsciiAlike right left :=
  Eq.symm alike

theorem AsciiAlike.eq_nil_iff (alike : AsciiAlike left right) : left = [] ↔ right = [] := by
  rw [← List.map_eq_nil_iff (f := asciiLower), alike, List.map_eq_nil_iff]

theorem AsciiAlike.markedAlike (alike : AsciiAlike left right)
    (marks : mark ∈ [':', '-', '*', '\n', 'Σ']) : MarkedAlike mark left right :=
  .of_map_eq (fun _ => asciiLower_eq_iff marks) alike

/-- A text cut at a mark, in other letters. -/
theorem AsciiAlike.exists_append {before after other : List Char}
    (alike : AsciiAlike (before ++ mark :: after) other)
    (marks : mark ∈ [':', '-', '*', '\n', 'Σ']) :
    ∃ start rest, other = start ++ mark :: rest ∧ AsciiAlike before start ∧
      AsciiAlike after rest := by
  have shape : other.map asciiLower =
      before.map asciiLower ++ asciiLower mark :: after.map asciiLower := by
    rw [← alike, List.map_append, List.map_cons]
  obtain ⟨start, tail, rfl, same, later⟩ := List.map_eq_append_iff.mp shape
  obtain ⟨c, rest, rfl, sameMark, sameRest⟩ := List.map_eq_cons_iff.mp later
  rw [(asciiLower_eq_iff marks).mpr rfl, asciiLower_eq_iff marks] at sameMark
  rw [sameMark]
  exact ⟨start, rest, rfl, same.symm, sameRest.symm⟩

end

end Text

/-- Two texts differ at most in the case of ASCII letters. -/
def StringsAlike (left right : String) : Prop := Text.AsciiAlike left.toList right.toList

instance (left right : String) : Decidable (StringsAlike left right) :=
  inferInstanceAs (Decidable (Text.AsciiAlike _ _))

/-- Two summaries differ at most in the case of ASCII letters in their id, in the name of their
kind and in their tags. -/
structure Summary.AsciiAlike (left right : Summary) : Prop where
  id : StringsAlike left.id right.id
  kind : StringsAlike left.kind.name right.kind.name
  tier : left.tier = right.tier
  tags : List.Forall₂ StringsAlike left.tags right.tags
  description : left.description = right.description

theorem StringsAlike.isEmpty_eq {left right : String} (alike : StringsAlike left right) :
    left.isEmpty = right.isEmpty := by
  rw [Bool.eq_iff_iff, String.isEmpty_iff, String.isEmpty_iff, ← String.toList_eq_nil_iff,
    ← String.toList_eq_nil_iff]
  exact Text.AsciiAlike.eq_nil_iff alike

namespace Query

/-! ## Terms -/

/-- A wildcard does not see the case of ASCII letters. -/
theorem Wildcard.isMatch_map_asciiLower (pattern text : List Char) :
    isMatch (pattern.map Text.asciiLower) (text.map Text.asciiLower) = isMatch pattern text := by
  have lineFeed (c : Char) : (Text.asciiLower c != '\n') = (c != '\n') := by
    rw [Bool.eq_iff_iff, bne_iff_ne, bne_iff_ne, ne_eq, ne_eq, Text.asciiLower_eq_iff (by simp)]
  induction pattern generalizing text with
  | nil => simp [isMatch_nil]
  | cons letter pattern ih =>
      by_cases star : letter = '*'
      · subst star
        rw [List.map_cons, (Text.asciiLower_eq_iff (by simp)).mpr rfl]
        induction text with
        | nil => rw [List.map_nil, isMatch_star_nil, isMatch_star_nil, ← ih, List.map_nil]
        | cons c text later =>
            rw [List.map_cons, isMatch_star_cons, isMatch_star_cons, later, ← ih (c :: text),
              List.map_cons, lineFeed]
      · have plain : Text.asciiLower letter ≠ '*' := by
          rwa [ne_eq, Text.asciiLower_eq_iff (by simp)]
        rw [List.map_cons]
        cases text with
        | nil => rw [List.map_nil, isMatch_letter_nil plain, isMatch_letter_nil star]
        | cons c text =>
            rw [List.map_cons, isMatch_letter_cons plain, isMatch_letter_cons star, ih]
            simp [Text.sameFold]

theorem Wildcard.isMatch_congr {pattern text other another : List Char}
    (alike : Text.AsciiAlike pattern other) (likewise : Text.AsciiAlike text another) :
    isMatch pattern text = isMatch other another := by
  rw [← isMatch_map_asciiLower, alike, likewise, isMatch_map_asciiLower]

/-- Two terms differ at most in the case of ASCII letters in their value. -/
structure Term.Alike (left right : Term) : Prop where
  key : left.key = right.key
  value : StringsAlike left.value right.value
  negated : left.negated = right.negated

namespace Term.Alike

variable {left right : Term}

theorem field_eq (alike : left.Alike right) : left.field = right.field := by
  rw [Term.field, Term.field, alike.key]

theorem isRecognized_eq (alike : left.Alike right) : left.isRecognized = right.isRecognized := by
  rw [Term.isRecognized, Term.isRecognized, alike.field_eq]

theorem isExistenceCheck_eq (alike : left.Alike right) :
    left.isExistenceCheck = right.isExistenceCheck := by
  have star (value : String) :
      value = "*" ↔ value.toList.map Text.asciiLower = ['*'] := by
    rw [List.map_eq_singleton_iff, ← String.toList_inj]
    simp [Text.asciiLower_eq_iff]
  simp only [Term.isExistenceCheck, star]
  rw [alike.value]

theorem isWildcard_eq (alike : left.Alike right) : left.isWildcard = right.isWildcard := by
  have stars : left.value.toList.contains '*' = right.value.toList.contains '*' := by
    rw [Bool.eq_iff_iff, List.contains_iff_mem, List.contains_iff_mem]
    exact (Text.AsciiAlike.markedAlike alike.value (by simp)).mem_iff
  rw [Term.isWildcard, Term.isWildcard, Term.isTagKey, Term.isTagKey, alike.field_eq,
    alike.isExistenceCheck_eq, stars]

theorem refusal?_eq [Wildcard.Compiler] (alike : left.Alike right) :
    Wildcard.refusal? left.value.toList = Wildcard.refusal? right.value.toList := by
  rw [← Wildcard.Compiler.refusal?_map_asciiLower left.value.toList, alike.value,
    Wildcard.Compiler.refusal?_map_asciiLower]

theorem admits [Wildcard.Compiler] (alike : left.Alike right) {mode : Mode}
    (admitted : mode.Admits left) : mode.Admits right := by
  unfold Mode.Admits at admitted ⊢
  rwa [← alike.isWildcard_eq, ← alike.refusal?_eq, ← alike.isRecognized_eq]

theorem equalsValue_eq (alike : left.Alike right) {text other : String}
    (texts : StringsAlike text other) : left.equalsValue text = right.equalsValue other :=
  Text.eqFold_congr texts alike.value

theorem matchesTag_eq (alike : left.Alike right) {tag other : String}
    (tags : StringsAlike tag other) : left.matchesTag tag = right.matchesTag other := by
  rw [Term.matchesTag, Term.matchesTag, alike.isWildcard_eq, alike.equalsValue_eq tags,
    Wildcard.isMatch_congr alike.value tags]

end Term.Alike

theorem any_congr_of_forall₂ {first second : String → Bool} {left right : List String}
    (alike : List.Forall₂ StringsAlike left right)
    (same : ∀ tag other, StringsAlike tag other → first tag = second other) :
    left.any first = right.any second := by
  induction alike with
  | nil => rfl
  | cons tags later ih => rw [List.any_cons, List.any_cons, same _ _ tags, ih]

section

variable {left right : Term} {summary other : Summary}

theorem Term.Alike.presentIn_eq (alike : left.Alike right) (summaries : summary.AsciiAlike other) :
    left.presentIn summary = right.presentIn other := by
  have tags : summary.tags.isEmpty = other.tags.isEmpty := by
    rw [Bool.eq_iff_iff, List.isEmpty_iff_length_eq_zero, List.isEmpty_iff_length_eq_zero,
      summaries.tags.length_eq]
  rw [Term.presentIn, Term.presentIn, alike.field_eq, summaries.id.isEmpty_eq,
    summaries.kind.isEmpty_eq, summaries.tier, tags, summaries.description]

theorem Term.Alike.holdsValueIn_eq (alike : left.Alike right)
    (summaries : summary.AsciiAlike other) :
    left.holdsValueIn summary = right.holdsValueIn other := by
  have tier : (fun tier : Tier => left.equalsValue tier.name) =
      fun tier => right.equalsValue tier.name := by
    funext tier
    exact alike.equalsValue_eq rfl
  rw [Term.holdsValueIn, Term.holdsValueIn, alike.field_eq, alike.equalsValue_eq summaries.id,
    alike.equalsValue_eq summaries.kind, summaries.tier, tier,
    any_congr_of_forall₂ summaries.tags fun _ _ tags => alike.matchesTag_eq tags]

theorem Term.Alike.accepts_eq (alike : left.Alike right) (summaries : summary.AsciiAlike other) :
    left.accepts summary = right.accepts other := by
  rw [Term.accepts, Term.accepts, Term.asks, Term.asks, alike.isExistenceCheck_eq,
    alike.presentIn_eq summaries, alike.holdsValueIn_eq summaries, alike.negated]

end

/-! ## Reading -/

/-- Two errors of the same sort, about the same key or about words at the same place that
differ at most in the case of ASCII letters. -/
inductive ErrorsAlike : Error → Error → Prop where
  | filterSyntax {token other : String} (alike : StringsAlike token other) (position : Nat)
      (expected : String) :
      ErrorsAlike (.filterSyntax token position expected) (.filterSyntax other position expected)
  | unknownFilterKey (key : String) : ErrorsAlike (.unknownFilterKey key) (.unknownFilterKey key)
  | invalidPattern {pattern other : String} (alike : StringsAlike pattern other)
      (reason : String) :
      ErrorsAlike (.invalidPattern pattern reason) (.invalidPattern other reason)

/-- Two attempts succeed with values that are alike, or fail with errors that are alike. -/
inductive EndsAlike {α : Type} (Alike : α → α → Prop) : Except Error α → Except Error α → Prop where
  | ok {value other : α} (alike : Alike value other) : EndsAlike Alike (.ok value) (.ok other)
  | error {error other : Error} (alike : ErrorsAlike error other) :
      EndsAlike Alike (.error error) (.error other)

theorem EndsAlike.bind {α β : Type} {Alike : α → α → Prop} {AlikeNext : β → β → Prop}
    {attempt other : Except Error α} {next otherNext : α → Except Error β}
    (first : EndsAlike Alike attempt other)
    (later : ∀ value another, Alike value another →
      EndsAlike AlikeNext (next value) (otherNext another)) :
    EndsAlike AlikeNext (attempt >>= next) (other >>= otherNext) := by
  cases first with
  | ok alike => exact later _ _ alike
  | error alike => exact .error alike

theorem syntaxError_alike {token other : List Char} (alike : Text.AsciiAlike token other)
    (position : Nat) (expected : Expected) :
    ErrorsAlike (syntaxError token position expected) (syntaxError other position expected) := by
  apply ErrorsAlike.filterSyntax
  rwa [StringsAlike, String.toList_ofList, String.toList_ofList]

section

variable {token other : List Char} {term : Term}

theorem isAnd_congr (alike : Text.AsciiAlike token other) : isAnd token = isAnd other := by
  rw [isAnd, isAnd, Text.eqAsciiFold, Text.eqAsciiFold, alike]

theorem isNot_congr (alike : Text.AsciiAlike token other) : isNot token = isNot other := by
  rw [isNot, isNot, Text.eqAsciiFold, Text.eqAsciiFold, alike]

/-- The same term stands in a token in other letters. -/
theorem IsTerm.exists_alike (reads : IsTerm token term) (alike : Text.AsciiAlike token other) :
    ∃ another, IsTerm other another ∧ term.Alike another := by
  cases reads with
  | @plain key value keyed valued first unsigned =>
      obtain ⟨start, rest, rfl, keys, values⟩ := alike.exists_append (by simp)
      refine ⟨_, .plain (mt keys.eq_nil_iff.mpr keyed) (mt values.eq_nil_iff.mpr valued)
        (mt (keys.markedAlike (by simp)).mem_iff.mpr first)
        (mt (keys.markedAlike (by simp)).head?_iff.mpr unsigned), ?_, ?_, rfl⟩
      · simp [keys.lower_eq]
      · simpa [StringsAlike] using values
  | @negated key value keyed valued first =>
      have signed : Text.AsciiAlike ([] ++ '-' :: (key ++ ':' :: value)) other := alike
      obtain ⟨sign, body, rfl, signs, bodies⟩ := signed.exists_append (by simp)
      obtain ⟨start, rest, rfl, keys, values⟩ := bodies.exists_append (by simp)
      rw [signs.eq_nil_iff.mp rfl, List.nil_append]
      refine ⟨_, .negated (mt keys.eq_nil_iff.mpr keyed) (mt values.eq_nil_iff.mpr valued)
        (mt (keys.markedAlike (by simp)).mem_iff.mpr first), ?_, ?_, rfl⟩
      · simp [keys.lower_eq]
      · simpa [StringsAlike] using values

theorem Mode.Refuses.exists_alike [Wildcard.Compiler] {mode : Mode} {error : Error} {another : Term}
    (refuses : mode.Refuses term error) (alike : term.Alike another) :
    ∃ same, mode.Refuses another same ∧ ErrorsAlike error same := by
  cases refuses with
  | wildcard wild refused =>
      rw [alike.isWildcard_eq] at wild
      rw [alike.refusal?_eq] at refused
      exact ⟨_, .wildcard wild refused, .invalidPattern alike.value _⟩
  | unknownKey strict unknown =>
      rw [alike.isRecognized_eq] at unknown
      rw [alike.key]
      exact ⟨_, .unknownKey strict unknown, .unknownFilterKey _⟩

theorem readTerm_alike [Wildcard.Compiler] (mode : Mode) (alike : Text.AsciiAlike token other)
    (position : Nat) (expected : Expected) :
    EndsAlike Term.Alike (readTerm mode token position expected)
      (readTerm mode other position expected) := by
  cases read : readTerm mode token position expected with
  | ok term =>
      obtain ⟨reads, admitted⟩ := readTerm_eq_ok_iff.mp read
      obtain ⟨another, readsOther, terms⟩ := reads.exists_alike alike
      rw [readTerm_eq_ok_iff.mpr ⟨readsOther, terms.admits admitted⟩]
      exact .ok terms
  | error error =>
      cases readTerm_eq_error_iff.mp read with
      | inl malformed =>
          obtain ⟨solid, rfl⟩ := malformed
          have solidOther : ∀ term, ¬IsTerm other term := by
            intro term reads
            obtain ⟨another, readsOwn, -⟩ := reads.exists_alike alike.symm
            exact solid another readsOwn
          rw [readTerm_of_not_isTerm solidOther]
          exact .error (syntaxError_alike alike position expected)
      | inr refused =>
          obtain ⟨term, reads, refuses⟩ := refused
          obtain ⟨another, readsOther, terms⟩ := reads.exists_alike alike
          obtain ⟨same, refusesOther, errors⟩ := refuses.exists_alike terms
          rw [refusesOther.readTerm_eq readsOther]
          exact .error errors

end

/-- Two queries accept the same of any two summaries that differ at most in the case of ASCII
letters. -/
def AcceptAlike (left right : Node) : Prop :=
  ∀ summary other : Summary, summary.AsciiAlike other → left.accepts summary = right.accepts other

theorem Term.Alike.acceptAlike {left right : Term} (alike : left.Alike right) :
    AcceptAlike (.term left) (.term right) := by
  intro summary other summaries
  exact alike.accepts_eq summaries

theorem AcceptAlike.not {left right : Node} (alike : AcceptAlike left right) :
    AcceptAlike (.not left) (.not right) := by
  intro summary other summaries
  rw [Node.accepts, Node.accepts, alike summary other summaries]

theorem readClauses_alike [Wildcard.Compiler] {mode : Mode} {clauseRequired : Bool} {position : Nat}
    {tokens others : List (List Char)} (alike : List.Forall₂ Text.AsciiAlike tokens others) :
    EndsAlike (List.Forall₂ AcceptAlike) (readClauses mode clauseRequired position tokens)
      (readClauses mode clauseRequired position others) := by
  fun_induction readClauses mode clauseRequired position tokens generalizing others with
  | case1 clauseRequired position =>
      cases alike
      exact .ok .nil
  | case2 position token rest spells =>
      cases alike with
      | cons first later =>
          rw [isAnd_congr first] at spells
          simp only [readClauses.eq_def _ _ _ (_ :: _), spells, if_true]
          exact .error (syntaxError_alike first position .termOrNot)
  | case3 clauseRequired position token rest spells free last =>
      cases alike with
      | cons first later =>
          rw [isAnd_congr first] at spells
          rw [List.isEmpty_iff.mp last] at later
          cases later
          simp only [readClauses.eq_def _ _ _ (_ :: _), spells, free, if_true,
            List.isEmpty_nil]
          exact .error (syntaxError_alike first position .termAfterAnd)
  | case4 clauseRequired position token rest spells free more ih =>
      cases alike with
      | @cons _ word _ words first later =>
          rw [isAnd_congr first] at spells
          have follows : ¬words.isEmpty = true := by
            rwa [List.isEmpty_iff_length_eq_zero, ← later.length_eq,
              ← List.isEmpty_iff_length_eq_zero]
          simp only [readClauses.eq_def _ _ _ (_ :: _), spells, free, follows, if_true]
          exact ih later
  | case5 clauseRequired position token notAnd spells =>
      cases alike with
      | cons first later =>
          rw [isAnd_congr first] at notAnd
          rw [isNot_congr first] at spells
          cases later
          simp only [readClauses.eq_def _ _ _ (_ :: _), notAnd, spells, if_true]
          exact .error (syntaxError_alike first position .termAfterNot)
  | case6 clauseRequired position token notAnd spells next rest ih =>
      cases alike with
      | cons first later =>
          rw [isAnd_congr first] at notAnd
          rw [isNot_congr first] at spells
          cases later with
          | cons second later =>
              simp only [readClauses.eq_def _ _ _ (_ :: _), notAnd, spells, if_true]
              apply (readTerm_alike mode second (position + 1) .wellFormedTerm).bind
              intro term another terms
              rw [← terms.negated]
              cases term.negated with
              | true => exact .error (syntaxError_alike second (position + 1) .plainTermAfterNot)
              | false =>
                  apply (ih later).bind
                  intro clauses same alike
                  exact .ok (.cons terms.acceptAlike.not alike)
  | case7 clauseRequired position token rest notAnd notNot expected =>
      rename_i ih
      cases alike with
      | cons first later =>
          rw [isAnd_congr first] at notAnd
          rw [isNot_congr first] at notNot
          simp only [readClauses.eq_def _ _ _ (_ :: _), notAnd, notNot]
          apply (readTerm_alike mode first position expected).bind
          intro term another terms
          apply (ih later).bind
          intro clauses same alike
          exact .ok (.cons terms.acceptAlike alike)

theorem accepts_ofClauses_congr {first second : List Node} {summary other : Summary}
    (alike : List.Forall₂ AcceptAlike first second) (summaries : summary.AsciiAlike other) :
    accepts (ofClauses first) summary = accepts (ofClauses second) other := by
  rw [accepts_ofClauses, accepts_ofClauses]
  induction alike with
  | nil => rfl
  | cons clauses later ih => rw [List.all_cons, List.all_cons, clauses summary other summaries, ih]

/-- Two queries that differ at most in the case of ASCII letters are both accepted, or fail
alike: with syntax errors about the same word, or with the same unknown key.  If they are
accepted, they accept the same of any two summaries that differ at most in the case of ASCII
letters. -/
theorem parse_ignores_asciiCase [Wildcard.Compiler] {text other : String}
    (alike : StringsAlike text other) (mode : Mode) :
    (∃ query same, parse mode text = .ok query ∧ parse mode other = .ok same ∧
      ∀ left right : Summary, left.AsciiAlike right → accepts query left = accepts same right) ∨
    ∃ error same, parse mode text = .error error ∧ parse mode other = .error same ∧
      ErrorsAlike error same := by
  have read : EndsAlike (List.Forall₂ AcceptAlike)
      (readClauses mode true 0 (Text.words text.toList))
      (readClauses mode true 0 (Text.words other.toList)) :=
    readClauses_alike (Text.AsciiAlike.forall₂_words alike)
  unfold parse
  generalize readClauses mode true 0 (Text.words text.toList) = own at read ⊢
  generalize readClauses mode true 0 (Text.words other.toList) = others at read ⊢
  cases read with
  | @ok clauses another alike =>
      left
      refine ⟨ofClauses clauses, ofClauses another, rfl, rfl, ?_⟩
      intro left right summaries
      exact accepts_ofClauses_congr alike summaries
  | error alike => exact .inr ⟨_, _, rfl, rfl, alike⟩

section

attribute [local instance] Wildcard.Compiler.bounded

theorem parse_ignores_asciiCase_wildcard :
    let text := "TAG:Σa*K aNd nOt iD:x"
    let other := "tag:ΣA*k AND NOT ID:X"
    let left : Summary := ⟨"Y", .other "Note", none, ["ςABk"], ""⟩
    let right : Summary := ⟨"y", .other "nOTE", none, ["ςabK"], ""⟩
    StringsAlike text other ∧ left.AsciiAlike right ∧
      ∃ query same, parse .strict text = .ok query ∧ parse .strict other = .ok same ∧
        accepts query left = true ∧ accepts same right = true := by
  intro text other left right
  have texts : StringsAlike text other := by decide
  have summaries : left.AsciiAlike right := by
    refine ⟨by decide, by decide, rfl, .cons ?_ .nil, rfl⟩
    decide
  have found : Text.words text.toList =
      ["TAG:Σa*K".toList, "aNd".toList, "nOt".toList, "iD:x".toList] := by decide
  have tag : IsTerm "TAG:Σa*K".toList ⟨"tag", "Σa*K", false⟩ :=
    isTerm_iff.mpr ⟨false, "TAG".toList, "Σa*K".toList, by decide, by decide⟩
  have id : IsTerm "iD:x".toList ⟨"id", "x", false⟩ :=
    isTerm_iff.mpr ⟨false, "iD".toList, "x".toList, by decide, by decide⟩
  have and : Spells "and" "aNd".toList := by decide
  have not : Spells "not" "nOt".toList := by decide
  have read : parse .strict text = .ok (some (.and
      [.term ⟨"tag", "Σa*K", false⟩, .not (.term ⟨"id", "x", false⟩)])) := by
    rw [parse_eq_ok_iff, found, admitsAll_term_iff tag, admitsAll_word_iff (by decide) and,
      admitsAll_word_iff (by decide) not]
    refine ⟨.conjunction ?_ (by decide), by decide, admitsAll_of_isTerm id (by decide)⟩
    exact .and (.term tag) and (.last (.not not id rfl))
  refine ⟨texts, summaries, ?_⟩
  cases parse_ignores_asciiCase texts .strict with
  | inl accepted =>
      obtain ⟨query, same, reads, readsOther, alike⟩ := accepted
      have accepted : accepts query left = true := by
        rw [read] at reads
        cases reads
        decide +kernel
      exact ⟨query, same, reads, readsOther, accepted, alike left right summaries ▸ accepted⟩
  | inr failed =>
      obtain ⟨error, same, fails, -⟩ := failed
      rw [read] at fails
      cases fails

end

end Query
end Guidebook
