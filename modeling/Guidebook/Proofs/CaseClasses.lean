import Guidebook.Proofs.CaseInsensitivity
import Mathlib.Data.Setoid.Basic

/-!
# Case classes

Two texts are compared up to the case of ASCII letters first, and in lower case only where that
fails.  The first look accepts nothing that the second would refuse, so the comparison is
equality in lower case, and the texts fall into classes.  A comparison in a query asks for the
class of its value: values of one class ask for the same, values of two classes never find the
same text, and a text and a value may change places.
-/

namespace Guidebook

namespace Text

/-- The look at ASCII letters decides nothing that the lower case would not. -/
theorem eqFold_iff {left right : List Char} :
    eqFold left right = true ↔ lower left = lower right := by
  rw [eqFold_eq, beq_iff_eq]

theorem eqFold_equivalence :
    Equivalence fun left right : List Char => eqFold left right = true := by
  simp only [eqFold_iff]
  exact (Setoid.ker lower).iseqv

end Text

/-- Two texts are in the same case class. -/
def SameCase (left right : String) : Prop :=
  Text.lower left.toList = Text.lower right.toList

instance (left right : String) : Decidable (SameCase left right) :=
  inferInstanceAs (Decidable (_ = _))

theorem SameCase.symm {left right : String} (same : SameCase left right) : SameCase right left :=
  Eq.symm same

theorem SameCase.trans {left middle right : String} (first : SameCase left middle)
    (second : SameCase middle right) : SameCase left right :=
  Eq.trans first second

theorem sameCase_comm {left right : String} : SameCase left right ↔ SameCase right left :=
  eq_comm

namespace Query

/-- The texts of a summary that a field compares with a value. -/
def Field.texts (field : Field) (summary : Summary) : List String :=
  match field with
  | .id => [summary.id]
  | .kind => [summary.kind.name]
  | .tier => summary.tier.toList.map Tier.name
  | .tag => summary.tags
  | .tags | .description | .unknown => []

/-- The term compares a field with its value: it asks neither whether the field is present nor
for a wildcard. -/
structure Term.IsComparison (term : Term) : Prop where
  supports : term.supportsValue = true
  valued : term.isExistenceCheck = false
  plain : term.isWildcard = false

variable {term first second : Term} {summary exchanged : Summary} {text : String}

theorem Term.isComparison_iff : term.IsComparison ↔
    term.supportsValue = true ∧ term.isExistenceCheck = false ∧ term.isWildcard = false :=
  ⟨fun ⟨supports, valued, plain⟩ => ⟨supports, valued, plain⟩,
    fun ⟨supports, valued, plain⟩ => ⟨supports, valued, plain⟩⟩

instance (term : Term) : Decidable term.IsComparison :=
  decidable_of_iff' _ Term.isComparison_iff

theorem Term.equalsValue_iff : term.equalsValue text = true ↔ SameCase text term.value :=
  Text.eqFold_iff

theorem Term.accepts_iff :
    term.accepts summary = true ↔ (term.asks summary = true ↔ term.negated = false) := by
  rw [accepts]
  cases term.asks summary <;> cases term.negated <;> simp

theorem Term.accepts_congr (signs : first.negated = second.negated)
    (asks : first.asks summary = second.asks exchanged) :
    first.accepts summary = second.accepts exchanged := by
  rw [accepts, accepts, signs, asks]

namespace Term.IsComparison

/-- A comparison asks for a text of the field that is in the class of its value. -/
theorem asks_iff (comparison : term.IsComparison) :
    term.asks summary = true ↔ ∃ text ∈ term.field.texts summary, SameCase text term.value := by
  have compared (tag : String) : term.matchesTag tag = term.equalsValue tag := by
    rw [matchesTag, comparison.plain]
    rfl
  rw [asks, comparison.valued, if_neg Bool.false_ne_true, holdsValueIn]
  cases field : term.field with
  | id => simp [Field.texts, equalsValue_iff]
  | kind => simp [Field.texts, equalsValue_iff]
  | tier =>
      cases tier : summary.tier with
      | none => simp [Field.texts, tier]
      | some tier => simp [Field.texts, tier, equalsValue_iff]
  | tag => simp [Field.texts, compared, equalsValue_iff]
  | tags | description | unknown =>
      -- These fields can only be present.
      have supports := comparison.supports
      rw [supportsValue, field] at supports
      cases supports

/-- Of a summary with one text in the field, a comparison asks whether that text is in the class
of its value. -/
theorem asks_iff_of_texts (comparison : term.IsComparison)
    (only : term.field.texts summary = [text]) :
    term.asks summary = true ↔ SameCase text term.value := by
  rw [comparison.asks_iff, only]
  simp

/-- Values of one class ask for the same. -/
theorem asks_congr (comparison : first.IsComparison) (another : second.IsComparison)
    (fields : first.field = second.field) (same : SameCase first.value second.value) :
    first.asks summary = second.asks summary := by
  rw [Bool.eq_iff_iff, comparison.asks_iff, another.asks_iff, fields]
  apply exists_congr
  intro text
  apply and_congr_right
  intro member
  constructor
  · intro own
    exact own.trans same
  · intro other
    exact other.trans same.symm

/-- Two values that find the same text are in its class. -/
theorem sameCase_of_asks (comparison : first.IsComparison) (another : second.IsComparison)
    (fields : first.field = second.field) (only : first.field.texts summary = [text])
    (own : first.asks summary = true) (other : second.asks summary = true) :
    SameCase first.value second.value := by
  rw [comparison.asks_iff_of_texts only] at own
  rw [fields] at only
  rw [another.asks_iff_of_texts only] at other
  exact own.symm.trans other

/-- A text and a value may change places. -/
theorem asks_exchange (comparison : first.IsComparison) (another : second.IsComparison)
    (fields : first.field = second.field) (only : first.field.texts summary = [second.value])
    (alone : first.field.texts exchanged = [first.value]) :
    first.asks summary = second.asks exchanged := by
  rw [fields] at alone
  rw [Bool.eq_iff_iff, comparison.asks_iff_of_texts only, another.asks_iff_of_texts alone]
  exact sameCase_comm

end Term.IsComparison

/-- The comparison up to case is equality in lower case, so it is an equivalence.  A comparison
of the id, the kind, the tier or the tags looks for a text in the class of its value.  Of two
comparisons of one field, those with values in one class accept the same summaries, those that
find the same text have values in one class, and a text and a value may change places. -/
theorem comparisons_by_caseClass :
    (∀ left right : List Char,
      Text.eqFold left right = true ↔ Text.lower left = Text.lower right) ∧
    Equivalence (fun left right : List Char => Text.eqFold left right = true) ∧
    (∀ (term : Term) (summary : Summary), term.IsComparison →
      (term.accepts summary = true ↔
        ((∃ text ∈ term.field.texts summary, SameCase text term.value) ↔
          term.negated = false))) ∧
    ∀ first second : Term, first.IsComparison → second.IsComparison →
      first.field = second.field → first.negated = second.negated →
      (SameCase first.value second.value →
        ∀ summary, first.accepts summary = second.accepts summary) ∧
      (∀ (summary : Summary) (text : String), first.field.texts summary = [text] →
        first.asks summary = true → second.asks summary = true →
        SameCase first.value second.value) ∧
      ∀ summary exchanged : Summary, first.field.texts summary = [second.value] →
        first.field.texts exchanged = [first.value] →
        first.accepts summary = second.accepts exchanged := by
  refine ⟨fun left right => Text.eqFold_iff, Text.eqFold_equivalence, ?_, ?_⟩
  · intro term summary comparison
    rw [Term.accepts_iff, comparison.asks_iff]
  · intro first second comparison another fields signs
    refine ⟨?_, ?_, ?_⟩
    · intro same summary
      exact Term.accepts_congr signs (comparison.asks_congr another fields same)
    · intro summary text only own other
      exact comparison.sameCase_of_asks another fields only own other
    · intro summary exchanged only alone
      exact Term.accepts_congr signs (comparison.asks_exchange another fields only alone)

theorem comparisons_by_caseClass_sigma :
    let first : Term := ⟨"tag", "Σ\u212AΣ", true⟩
    let second : Term := ⟨"tag", "σkς", true⟩
    let other : Term := ⟨"tag", "σkσ", true⟩
    let summary : Summary := ⟨"x", .recipe, none, ["σkς"], ""⟩
    let exchanged : Summary := ⟨"y", .recipe, none, ["Σ\u212AΣ"], ""⟩
    first.IsComparison ∧ second.IsComparison ∧ other.IsComparison ∧
      first.field = second.field ∧ SameCase first.value second.value ∧
      ¬SameCase first.value other.value ∧
      first.accepts summary = false ∧ second.accepts exchanged = false ∧
      (∀ any, first.accepts any = second.accepts any) ∧
      ¬other.asks exchanged = true := by
  intro first second other summary exchanged
  have own : first.IsComparison := by decide
  have another : second.IsComparison := by decide
  have third : other.IsComparison := by decide
  have same : SameCase first.value second.value := by decide +kernel
  have apart : ¬SameCase first.value other.value := by decide +kernel
  obtain ⟨-, -, accepts, pairs⟩ := comparisons_by_caseClass
  obtain ⟨alike, -, exchange⟩ := pairs first second own another rfl rfl
  obtain ⟨-, found, -⟩ := pairs first other own third rfl rfl
  have refused : first.accepts summary = false := by
    rw [Bool.eq_false_iff]
    intro accepted
    have asked := (accepts first summary own).mp accepted
    have unsigned : first.negated = false := asked.mp ⟨"σkς", .head [], same.symm⟩
    cases unsigned
  have finds : first.asks exchanged = true := (own.asks_iff_of_texts rfl).mpr rfl
  refine ⟨own, another, third, rfl, same, apart, refused, ?_, alike same, ?_⟩
  · rw [← exchange summary exchanged rfl rfl]
    exact refused
  · intro also
    exact apart (found exchanged first.value rfl finds also)

end Query
end Guidebook
