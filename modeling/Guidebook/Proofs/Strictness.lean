import Guidebook.Proofs.Faults

/-!
# Strict and lenient readers

A strict reader looks at the key of each term right after it has read the term,
before it asks whether the term may stand where it does.  This module shows that
nothing else sets it apart from a lenient reader: it fails at the leftmost term
with an unknown key if a lenient reader gets there, and otherwise does what a
lenient reader does.
-/

namespace Guidebook.Query

/-- Every word that is a term has a known key. -/
def AllKnown (tokens : List (List Char)) : Prop :=
  ∀ token ∈ tokens, ∀ term, IsTerm token term → term.isRecognized = true

/-- The leftmost word that is a term with an unknown key, and the term. -/
structure FirstUnknown (tokens : List (List Char)) (place : Nat) (term : Term) : Prop where
  reads : ∃ token, tokens[place]? = some token ∧ IsTerm token term
  unknown : term.isRecognized = false
  earlier : AllKnown (tokens.take place)

/-- The number of the word that an error of a lenient reader is about: the one that a syntax
error names, or the first term whose wildcard cannot be made into a matcher. -/
inductive ErrorAt [Wildcard.Compiler] (tokens : List (List Char)) :
    Error → (place : Nat) → Prop where
  | syntaxError {token : List Char} {place : Nat} {expected : Expected}
      (found : tokens[place]? = some token) :
      ErrorAt tokens (syntaxError token place expected) place
  | wildcard {place : Nat} {token : List Char} {term : Term} {reason : String}
      (found : tokens[place]? = some token) (reads : IsTerm token term)
      (wild : term.isWildcard = true)
      (refused : Wildcard.refusal? term.value.toList = some reason)
      (earlier : Mode.lenient.AdmitsAll (tokens.take place)) :
      ErrorAt tokens (.invalidPattern term.value reason) place

theorem ErrorAt.place_eq [Wildcard.Compiler] {tokens : List (List Char)} {text expected : String}
    {position place : Nat} (error : ErrorAt tokens (.filterSyntax text position expected) place) :
    place = position := by
  cases error
  rfl

theorem FirstUnknown.le {tokens : List (List Char)} {place other : Nat} {term rival : Term}
    (first : FirstUnknown tokens place term)
    (reads : ∃ token, tokens[other]? = some token ∧ IsTerm token rival)
    (unknown : rival.isRecognized = false) : place ≤ other := by
  refine Nat.le_of_not_lt fun before => ?_
  obtain ⟨token, found, reads⟩ := reads
  have member : token ∈ tokens.take place :=
    List.mem_iff_getElem?.mpr ⟨other, by rwa [List.getElem?_take_of_lt before]⟩
  rw [first.earlier token member rival reads] at unknown
  cases unknown

theorem FirstUnknown.unique {tokens : List (List Char)} {place other : Nat} {term rival : Term}
    (first : FirstUnknown tokens place term) (second : FirstUnknown tokens other rival) :
    place = other ∧ term = rival := by
  obtain rfl : place = other :=
    Nat.le_antisymm (first.le second.reads second.unknown) (second.le first.reads first.unknown)
  obtain ⟨token, found, reads⟩ := first.reads
  obtain ⟨word, again, same⟩ := second.reads
  rw [found] at again
  cases again
  exact ⟨rfl, reads.unique same⟩

theorem admits_strict_iff [Wildcard.Compiler] {term : Term} :
    Mode.strict.Admits term ↔ Mode.lenient.Admits term ∧ term.isRecognized = true := by
  simp [Mode.Admits]

theorem admitsAll_strict_iff [Wildcard.Compiler] {tokens : List (List Char)} :
    Mode.strict.AdmitsAll tokens ↔ Mode.lenient.AdmitsAll tokens ∧ AllKnown tokens := by
  simp only [Mode.AdmitsAll, AllKnown, admits_strict_iff]
  constructor
  · intro admitted
    exact ⟨fun token member term reads => (admitted token member term reads).1,
      fun token member term reads => (admitted token member term reads).2⟩
  · rintro ⟨admitted, known⟩ token member term reads
    exact ⟨admitted token member term reads, known token member term reads⟩

theorem allKnown_or_exists_firstUnknown (tokens : List (List Char)) :
    AllKnown tokens ∨ ∃ place term, FirstUnknown tokens place term := by
  induction tokens with
  | nil => exact .inl nofun
  | cons token rest ih =>
      by_cases unknown : ∃ term, IsTerm token term ∧ term.isRecognized = false
      · obtain ⟨term, reads, unknown⟩ := unknown
        exact .inr ⟨0, term, ⟨token, rfl, reads⟩, unknown, nofun⟩
      · have known : ∀ term, IsTerm token term → term.isRecognized = true := by
          simpa using unknown
        rcases ih with others | ⟨place, term, first⟩
        · exact .inl (List.forall_mem_cons.mpr ⟨known, others⟩)
        · exact .inr ⟨place + 1, term, first.reads, first.unknown,
            List.forall_mem_cons.mpr ⟨known, first.earlier⟩⟩

/-- The words up to some number have an unknown key first where all words have. -/
theorem FirstUnknown.of_take {tokens : List (List Char)} {count place : Nat} {term : Term}
    (first : FirstUnknown (tokens.take count) place term) :
    place < count ∧ FirstUnknown tokens place term := by
  obtain ⟨token, found, reads⟩ := first.reads
  have inside : place < count := by
    have bound := (List.getElem?_eq_some_iff.mp found).1
    rw [List.length_take] at bound
    omega
  rw [List.getElem?_take_of_lt inside] at found
  have earlier := first.earlier
  rw [List.take_take, Nat.min_eq_left (Nat.le_of_lt inside)] at earlier
  exact ⟨inside, ⟨token, found, reads⟩, first.unknown, earlier⟩

theorem leads_append_iff {place last : Place} {left right : List (List Char)} :
    Leads place (left ++ right) last ↔
      ∃ middle, Leads place left middle ∧ Leads middle right last := by
  induction left generalizing place with
  | nil =>
      constructor
      · intro leads
        exact ⟨place, .nil, leads⟩
      · rintro ⟨middle, ⟨⟩, leads⟩
        exact leads
  | cons token left ih =>
      constructor
      · rintro (_ | ⟨step, later⟩)
        obtain ⟨middle, before, after⟩ := ih.mp later
        exact ⟨middle, .cons step before, after⟩
      · rintro ⟨middle, _ | ⟨step, before⟩, after⟩
        exact .cons step (ih.mpr ⟨middle, before, after⟩)

theorem IsClause.leads {place : Place} (free : place ≠ .plainTerm) {tokens : List (List Char)}
    {clause : Node} (reads : IsClause tokens clause) : Leads place tokens .operator := by
  cases reads with
  | term reads => exact .cons (.term free reads) .nil
  | not spells reads plain => exact .cons (.not free spells) (.cons (.plain reads plain) .nil)

theorem AreClauses.leads {place : Place} (free : place ≠ .plainTerm) {tokens : List (List Char)}
    {clauses : List Node} (read : AreClauses tokens clauses) : Leads place tokens .operator := by
  induction read generalizing place with
  | last reads => exact reads.leads free
  | next reads later ih =>
      exact leads_append_iff.mpr ⟨.operator, reads.leads free, ih (by decide)⟩
  | and reads spells later ih =>
      exact leads_append_iff.mpr ⟨.operator, reads.leads free, .cons (.and spells) (ih (by decide))⟩

theorem exists_leads_of_parse [Wildcard.Compiler] {mode : Mode} {text : String}
    {query : Option Node} (read : parse mode text = .ok query) :
    ∃ place, Leads .clause (Text.words text.toList) place := by
  obtain ⟨forms, -⟩ := parse_eq_ok_iff.mp read
  rcases exists_isQuery_iff.mp ⟨query, forms⟩ with nothing | ⟨clauses, clausesRead⟩
  · rw [nothing]
    exact ⟨.clause, .nil⟩
  · exact ⟨.operator, clausesRead.leads (by decide)⟩

/-- A strict reader fails at the leftmost unknown key, if it gets there. -/
theorem FirstUnknown.parse_strict [Wildcard.Compiler] {text : String} {number : Nat} {term : Term}
    (first : FirstUnknown (Text.words text.toList) number term) {place : Place}
    (leads : Leads .clause ((Text.words text.toList).take number) place)
    (admitted : Mode.lenient.AdmitsAll ((Text.words text.toList).take number)) :
    parse .strict text = .error (.unknownFilterKey term.key) := by
  obtain ⟨token, found, reads⟩ := first.reads
  refine parse_eq_error_iff.mpr ⟨(Text.words text.toList).take number, token,
    (Text.words text.toList).drop (number + 1), place, ?_, leads,
    admitsAll_strict_iff.mpr ⟨admitted, first.earlier⟩,
    .refused reads (.unknownKey rfl first.unknown)⟩
  obtain ⟨inside, same⟩ := List.getElem?_eq_some_iff.mp found
  rw [← same, ← List.drop_eq_getElem_cons, List.take_append_drop]

/-- A word that is wrong for a lenient reader is so for a strict one, if its key is known. -/
theorem Fault.strict [Wildcard.Compiler] {position : Nat} {place : Place} {token : List Char}
    {rest : List (List Char)} {error : Error}
    (fault : Fault .lenient position place token rest error) (known : AllKnown [token]) :
    Fault .strict position place token rest error := by
  cases fault with
  | misplacedAnd spells => exact .misplacedAnd spells
  | trailingAnd spells => exact .trailingAnd spells
  | trailingNot free spells => exact .trailingNot free spells
  | malformed solid noConnective => exact .malformed solid noConnective
  | negated reads signed admitted =>
      exact .negated reads signed
        (admits_strict_iff.mpr ⟨admitted, known token List.mem_cons_self _ reads⟩)
  | refused reads refuses =>
      cases refuses with
      | wildcard wild refused => exact .refused reads (.wildcard wild refused)
      | unknownKey strict unknown => cases strict

theorem Fault.errorAt [Wildcard.Compiler] {place : Place} {before rest : List (List Char)}
    {token : List Char} {error : Error}
    (fault : Fault .lenient before.length place token rest error)
    (admitted : Mode.lenient.AdmitsAll before) :
    ErrorAt (before ++ token :: rest) error before.length := by
  have found : (before ++ token :: rest)[before.length]? = some token := by simp
  cases fault with
  | misplacedAnd => exact .syntaxError found
  | trailingAnd => exact .syntaxError found
  | trailingNot => exact .syntaxError found
  | malformed => exact .syntaxError found
  | negated => exact .syntaxError found
  | refused reads refuses =>
      cases refuses with
      | wildcard wild refused =>
          refine .wildcard found reads wild refused ?_
          rwa [List.take_left]
      | unknownKey strict unknown => cases strict

section

variable [Wildcard.Compiler] {text : String} {query : Option Node} {error : Error}

theorem parse_lenient_of_strict (read : parse .strict text = .ok query) :
    parse .lenient text = .ok query := by
  obtain ⟨forms, admitted⟩ := parse_eq_ok_iff.mp read
  exact parse_eq_ok_iff.mpr ⟨forms, (admitsAll_strict_iff.mp admitted).1⟩

theorem parse_strict_of_ok (read : parse .lenient text = .ok query) :
    AllKnown (Text.words text.toList) ∧ parse .strict text = .ok query ∨
      ∃ place term, FirstUnknown (Text.words text.toList) place term ∧
        parse .strict text = .error (.unknownFilterKey term.key) := by
  obtain ⟨forms, admitted⟩ := parse_eq_ok_iff.mp read
  rcases allKnown_or_exists_firstUnknown (Text.words text.toList) with
    known | ⟨number, term, first⟩
  · exact .inl ⟨known, parse_eq_ok_iff.mpr ⟨forms, admitsAll_strict_iff.mpr ⟨admitted, known⟩⟩⟩
  · obtain ⟨place, leads⟩ := exists_leads_of_parse read
    rw [← List.take_append_drop number (Text.words text.toList)] at leads admitted
    obtain ⟨middle, before, -⟩ := leads_append_iff.mp leads
    exact .inr ⟨number, term, first,
      first.parse_strict before (admitsAll_append_iff.mp admitted).1⟩

theorem parse_strict_of_error (fails : parse .lenient text = .error error) :
    ∃ place, ErrorAt (Text.words text.toList) error place ∧
      (AllKnown ((Text.words text.toList).take (place + 1)) ∧
          parse .strict text = .error error ∨
        ∃ first term, FirstUnknown (Text.words text.toList) first term ∧ first ≤ place ∧
          parse .strict text = .error (.unknownFilterKey term.key)) := by
  obtain ⟨before, token, rest, place, whole, leads, admitted, fault⟩ := parse_eq_error_iff.mp fails
  rw [Nat.zero_add] at fault
  refine ⟨before.length, by rw [whole]; exact fault.errorAt admitted, ?_⟩
  -- A strict reader gets no further than a lenient one, so only the words up to the wrong
  -- one matter, and the wrong one counts: its key is looked at before its place.
  have upTo : (Text.words text.toList).take (before.length + 1) = before ++ [token] := by
    rw [whole, List.append_cons]
    exact List.take_left' (by simp)
  rcases allKnown_or_exists_firstUnknown ((Text.words text.toList).take (before.length + 1)) with
    known | ⟨number, term, first⟩
  · have ⟨earlier, own⟩ := List.forall_mem_append.mp (upTo ▸ known)
    refine .inl ⟨known, parse_eq_error_iff.mpr ⟨before, token, rest, place, whole, leads,
      admitsAll_strict_iff.mpr ⟨admitted, earlier⟩, ?_⟩⟩
    rw [Nat.zero_add]
    exact fault.strict own
  · obtain ⟨inside, first⟩ := first.of_take
    have start : (Text.words text.toList).take number = before.take number := by
      rw [whole, List.take_append_of_le_length (by omega)]
    rw [← List.take_append_drop number before, ← start] at leads admitted
    obtain ⟨middle, earlier, -⟩ := leads_append_iff.mp leads
    exact .inr ⟨number, term, first, by omega,
      first.parse_strict earlier (admitsAll_append_iff.mp admitted).1⟩

end

/-- A strict reader reads what a lenient one reads, and fails as it fails, unless a term with
an unknown key comes no later than where the lenient reader ends; then it names the key of the
leftmost such term. -/
theorem parse_strict_of_lenient [Wildcard.Compiler] (text : String) :
    (∀ query, parse .lenient text = .ok query →
      AllKnown (Text.words text.toList) ∧ parse .strict text = .ok query ∨
      ∃ place term, FirstUnknown (Text.words text.toList) place term ∧
        parse .strict text = .error (.unknownFilterKey term.key)) ∧
    (∀ error, parse .lenient text = .error error →
      ∃ place, ErrorAt (Text.words text.toList) error place ∧
        (AllKnown ((Text.words text.toList).take (place + 1)) ∧
            parse .strict text = .error error ∨
          ∃ first term, FirstUnknown (Text.words text.toList) first term ∧ first ≤ place ∧
            parse .strict text = .error (.unknownFilterKey term.key))) ∧
    ∀ query, parse .strict text = .ok query → parse .lenient text = .ok query := by
  exact ⟨fun _ => parse_strict_of_ok, fun _ => parse_strict_of_error,
    fun _ => parse_lenient_of_strict⟩

section

attribute [local instance] Wildcard.Compiler.bounded

theorem parse_strict_of_lenient_signed :
    let text := "id:a not -Foo:x and"
    parse .lenient text = .error (syntaxError "-Foo:x".toList 2 .plainTermAfterNot) ∧
      parse .strict text = .error (.unknownFilterKey "foo") := by
  intro text
  have found : Text.words text.toList =
      ["id:a".toList, "not".toList] ++ "-Foo:x".toList :: ["and".toList] := by decide
  have id : IsTerm "id:a".toList ⟨"id", "a", false⟩ :=
    isTerm_iff.mpr ⟨false, "id".toList, "a".toList, by decide, by decide⟩
  have foo : IsTerm "-Foo:x".toList ⟨"foo", "x", true⟩ :=
    isTerm_iff.mpr ⟨true, "Foo".toList, "x".toList, by decide, by decide⟩
  have leads : Leads .clause ["id:a".toList, "not".toList] .plainTerm :=
    .cons (.term (by decide) id) (.cons (.not (by decide) (by decide)) .nil)
  have not : Spells "not" "not".toList := by decide
  have admitted : Mode.lenient.AdmitsAll ["id:a".toList, "not".toList] :=
    (admitsAll_term_iff id _).mpr ⟨by decide, admitsAll_of_spells (by decide) not⟩
  have fails : parse .lenient text =
      .error (syntaxError "-Foo:x".toList 2 .plainTermAfterNot) :=
    parse_eq_error_iff.mpr ⟨_, _, _, _, found, leads, admitted, .negated foo rfl (by decide)⟩
  refine ⟨fails, ?_⟩
  have first : FirstUnknown (Text.words text.toList) 2 ⟨"foo", "x", true⟩ := by
    rw [found]
    refine ⟨⟨_, rfl, foo⟩, by decide, ?_⟩
    exact (admitsAll_strict_iff.mp ((admitsAll_term_iff id _).mpr
      ⟨by decide, admitsAll_of_spells (by decide) not⟩)).2
  obtain ⟨place, named, ⟨known, -⟩ | ⟨number, term, unknown, -, strict⟩⟩ :=
    (parse_strict_of_lenient text).2.1 _ fails
  · rw [named.place_eq, found] at known
    exact absurd (known "-Foo:x".toList (by decide) _ foo) (by decide)
  · obtain ⟨-, rfl⟩ := first.unique unknown
    exact strict

end

end Guidebook.Query
