import Guidebook.Proofs.Grammar

/-!
# Where a query goes wrong

A reader of a query is at one of three places before each word.  This module says
which words may stand at a place, what is wrong with a word that may not, and that
the reader fails with exactly the fault of the first such word.  Its main
statement is about that word: the words before it can be completed to an accepted
query, and with it they cannot.
-/

namespace Guidebook.Query

/-- What may come next in a query. -/
inductive Place where
  /-- At the start and after `AND`: a clause has to follow. -/
  | clause
  /-- After `NOT`: a term without `-` has to follow. -/
  | plainTerm
  /-- After a clause: `AND`, a further clause or the end. -/
  | operator
  deriving DecidableEq, Repr

namespace Place

/-- The place of a reader that does or does not require a clause. -/
def ofRequired (clauseRequired : Bool) : Place :=
  if clauseRequired then .clause else .operator

/-- What a word lacks that is neither a term nor a connective of the place. -/
def expected : Place → Expected
  | .clause | .plainTerm => .wellFormedTerm
  | .operator => .operatorOrTerm

theorem ofRequired_ne_plainTerm (clauseRequired : Bool) :
    ofRequired clauseRequired ≠ .plainTerm := by
  cases clauseRequired <;> decide

/-- A place that is not after `NOT` is where a clause is or is not required. -/
theorem exists_ofRequired {place : Place} (free : place ≠ .plainTerm) :
    ∃ clauseRequired, place = ofRequired clauseRequired := by
  cases place with
  | clause => exact ⟨true, rfl⟩
  | plainTerm => exact absurd rfl free
  | operator => exact ⟨false, rfl⟩

end Place

/-- A word that may stand at a place, and the place after it. -/
inductive Step : Place → (token : List Char) → Place → Prop where
  | and {token : List Char} (spells : Spells "and" token) : Step .operator token .clause
  | not {place : Place} {token : List Char} (free : place ≠ .plainTerm)
      (spells : Spells "not" token) : Step place token .plainTerm
  | term {place : Place} {token : List Char} {term : Term} (free : place ≠ .plainTerm)
      (reads : IsTerm token term) : Step place token .operator
  | plain {token : List Char} {term : Term} (reads : IsTerm token term)
      (plain : term.negated = false) : Step .plainTerm token .operator

/-- Words that may stand one after the other from a place on, and the place after them. -/
inductive Leads : Place → (tokens : List (List Char)) → Place → Prop where
  | nil {place : Place} : Leads place [] place
  | cons {place next last : Place} {token : List Char} {rest : List (List Char)}
      (step : Step place token next) (later : Leads next rest last) :
      Leads place (token :: rest) last

/-- A wildcard is about tags, which are known. -/
theorem isRecognized_of_isWildcard {term : Term} (wild : term.isWildcard = true) :
    term.isRecognized = true := by
  simp only [Term.isWildcard, Term.isTagKey, Bool.and_eq_true, beq_iff_eq] at wild
  simp [Term.isRecognized, wild.1.1]

section

variable [Wildcard.Compiler]

/-- The errors by which a mode refuses a term. -/
inductive Mode.Refuses (mode : Mode) : Term → Error → Prop where
  | wildcard {term : Term} {reason : String} (wild : term.isWildcard = true)
      (refused : Wildcard.refusal? term.value.toList = some reason) :
      mode.Refuses term (.invalidPattern term.value reason)
  | unknownKey {term : Term} (strict : mode = .strict) (unknown : term.isRecognized = false) :
      mode.Refuses term (.unknownFilterKey term.key)

/-- What is wrong with a word at a place, before the rest of the words. -/
inductive Fault (mode : Mode) (position : Nat) :
    Place → (token : List Char) → (rest : List (List Char)) → Error → Prop where
  | misplacedAnd {token : List Char} {rest : List (List Char)} (spells : Spells "and" token) :
      Fault mode position .clause token rest (syntaxError token position .termOrNot)
  | trailingAnd {token : List Char} (spells : Spells "and" token) :
      Fault mode position .operator token [] (syntaxError token position .termAfterAnd)
  | trailingNot {place : Place} {token : List Char} (free : place ≠ .plainTerm)
      (spells : Spells "not" token) :
      Fault mode position place token [] (syntaxError token position .termAfterNot)
  | malformed {place : Place} {token : List Char} {rest : List (List Char)}
      (solid : ∀ term, ¬IsTerm token term)
      (noConnective : place ≠ .plainTerm → ¬Spells "and" token ∧ ¬Spells "not" token) :
      Fault mode position place token rest (syntaxError token position place.expected)
  | negated {token : List Char} {term : Term} {rest : List (List Char)}
      (reads : IsTerm token term) (signed : term.negated = true) (admitted : mode.Admits term) :
      Fault mode position .plainTerm token rest (syntaxError token position .plainTermAfterNot)
  | refused {place : Place} {token : List Char} {term : Term} {rest : List (List Char)}
      {error : Error} (reads : IsTerm token term) (refuses : mode.Refuses term error) :
      Fault mode position place token rest error

/-! ## Terms that a mode refuses -/

theorem Mode.admits_or_refuses (mode : Mode) (term : Term) :
    mode.Admits term ∨ ∃ error, mode.Refuses term error := by
  by_cases compiles : term.isWildcard = true → Wildcard.refusal? term.value.toList = none
  · by_cases known : mode = .strict → term.isRecognized = true
    · exact .inl ⟨compiles, known⟩
    · rw [Classical.not_imp, Bool.not_eq_true] at known
      exact .inr ⟨_, .unknownKey known.1 known.2⟩
  · rw [Classical.not_imp] at compiles
    obtain ⟨reason, refused⟩ := Option.ne_none_iff_exists'.mp compiles.2
    exact .inr ⟨_, .wildcard compiles.1 refused⟩

theorem readTerm_of_not_isTerm {mode : Mode} {token : List Char} {position : Nat}
    {expected : Expected} (solid : ∀ term, ¬IsTerm token term) :
    readTerm mode token position expected = .error (syntaxError token position expected) := by
  unfold readTerm
  cases parts : termParts? token with
  | none => rfl
  | some found => exact absurd (isTerm_iff.mpr ⟨_, _, _, parts, rfl⟩) (solid _)

theorem Mode.Refuses.readTerm_eq {mode : Mode} {token : List Char} {position : Nat}
    {expected : Expected} {term : Term} {error : Error} (refuses : mode.Refuses term error)
    (reads : IsTerm token term) : readTerm mode token position expected = .error error := by
  obtain ⟨negated, key, value, parts, rfl⟩ := isTerm_iff.mp reads
  simp only [readTerm, parts]
  cases refuses with
  | wildcard wild refused =>
      rw [Term.make, String.toList_ofList, if_pos wild, refused]
      rfl
  | unknownKey strict unknown =>
      have tame : ¬(⟨String.ofList (Text.lower key), String.ofList value, negated⟩ :
          Term).isWildcard = true := by
        intro wild
        rw [isRecognized_of_isWildcard wild] at unknown
        cases unknown
      rw [Term.make, String.toList_ofList, if_neg tame]
      change (if _ then _ else _) = _
      rw [if_pos ⟨strict, by simpa using unknown⟩]
      rfl

/-- A term is not read from a word that has not its form, or when the mode refuses it. -/
theorem readTerm_eq_error_iff {mode : Mode} {token : List Char} {position : Nat}
    {expected : Expected} {error : Error} :
    readTerm mode token position expected = .error error ↔
      ((∀ term, ¬IsTerm token term) ∧ error = syntaxError token position expected) ∨
        ∃ term, IsTerm token term ∧ mode.Refuses term error := by
  constructor
  · intro fails
    by_cases formed : ∃ term, IsTerm token term
    · obtain ⟨term, reads⟩ := formed
      rcases mode.admits_or_refuses term with admitted | ⟨other, refuses⟩
      · rw [readTerm_eq_ok_iff.mpr ⟨reads, admitted⟩] at fails
        cases fails
      · rw [refuses.readTerm_eq reads] at fails
        cases fails
        exact .inr ⟨term, reads, refuses⟩
    · have solid := not_exists.mp formed
      rw [readTerm_of_not_isTerm solid] at fails
      cases fails
      exact .inl ⟨solid, rfl⟩
  · rintro (⟨solid, rfl⟩ | ⟨term, reads, refuses⟩)
    · exact readTerm_of_not_isTerm solid
    · exact refuses.readTerm_eq reads

/-! ## The reader -/

/-- Read the words from a place on. -/
def readFrom (mode : Mode) :
    Place → (position : Nat) → (tokens : List (List Char)) → Except Error (List Node)
  | .clause, position, tokens => readClauses mode true position tokens
  | .operator, position, tokens => readClauses mode false position tokens
  | .plainTerm, _, [] => .ok []
  | .plainTerm, position, token :: rest => do
      let term ← readTerm mode token position .wellFormedTerm
      if term.negated then throw (syntaxError token position .plainTermAfterNot)
      let clauses ← readClauses mode false (position + 1) rest
      return .not (.term term) :: clauses

theorem readFrom_plainTerm (mode : Mode) (position : Nat) (token : List Char)
    (rest : List (List Char)) :
    readFrom mode .plainTerm position (token :: rest) = (do
      let term ← readTerm mode token position .wellFormedTerm
      if term.negated then throw (syntaxError token position .plainTermAfterNot)
      let clauses ← readClauses mode false (position + 1) rest
      return .not (.term term) :: clauses) := rfl

theorem readFrom_ofRequired (mode : Mode) (clauseRequired : Bool) (position : Nat)
    (tokens : List (List Char)) :
    readFrom mode (.ofRequired clauseRequired) position tokens =
      readClauses mode clauseRequired position tokens := by
  cases clauseRequired <;> rfl

theorem readClauses_not {mode : Mode} {token next : List Char} (spells : Spells "not" token)
    (clauseRequired : Bool) (position : Nat) (rest : List (List Char)) :
    readClauses mode clauseRequired position (token :: next :: rest) =
      readFrom mode .plainTerm (position + 1) (next :: rest) := by
  have notAnd : isAnd token = false := by
    rw [Bool.eq_false_iff]
    intro other
    exact not_spells_not (isAnd_iff.mp other) spells
  rw [readClauses, notAnd, isNot_iff.mpr spells]
  rfl

theorem readClauses_term {mode : Mode} {token : List Char} (noAnd : ¬Spells "and" token)
    (noNot : ¬Spells "not" token) (clauseRequired : Bool) (position : Nat)
    (rest : List (List Char)) :
    readClauses mode clauseRequired position (token :: rest) = (do
      let term ← readTerm mode token position (Place.ofRequired clauseRequired).expected
      let clauses ← readClauses mode false (position + 1) rest
      return .term term :: clauses) := by
  rw [← isAnd_iff, Bool.not_eq_true] at noAnd
  rw [← isNot_iff, Bool.not_eq_true] at noNot
  rw [readClauses.eq_def]
  simp only [noAnd, noNot, Bool.false_eq_true, if_false]
  cases clauseRequired <;> rfl

/-- A word that may stand at its place adds its part to what is read after it. -/
theorem Step.readFrom_eq {mode : Mode} {place next : Place} {token : List Char}
    (step : Step place token next) (admitted : mode.AdmitsAll [token])
    {rest : List (List Char)} (more : rest = [] → next = .operator) (position : Nat) :
    ∃ clauses, readFrom mode place position (token :: rest) =
      (readFrom mode next (position + 1) rest).map (clauses ++ ·) := by
  cases step with
  | and spells =>
      have follows : rest.isEmpty = false := by
        rw [Bool.eq_false_iff, ne_eq, List.isEmpty_iff]
        intro last
        cases more last
      refine ⟨[], ?_⟩
      simp only [readFrom, readClauses.eq_def _ _ _ (token :: rest), isAnd_iff.mpr spells,
        follows, Bool.false_eq_true, if_true, if_false, List.nil_append]
      exact (id_map _).symm
  | not free spells =>
      obtain ⟨clauseRequired, rfl⟩ := Place.exists_ofRequired free
      cases rest with
      | nil => cases more rfl
      | cons following rest =>
          refine ⟨[], ?_⟩
          rw [readFrom_ofRequired, readClauses_not spells]
          exact (id_map _).symm
  | @term _ _ term free reads =>
      obtain ⟨clauseRequired, rfl⟩ := Place.exists_ofRequired free
      refine ⟨[.term term], ?_⟩
      rw [readFrom_ofRequired, readClauses_term (reads.not_spells (by decide))
        (reads.not_spells (by decide)),
        readTerm_eq_ok_iff.mpr ⟨reads, admits_of_isTerm reads admitted⟩]
      rfl
  | @plain _ term reads plain =>
      refine ⟨[.not (.term term)], ?_⟩
      rw [readFrom_plainTerm, readTerm_eq_ok_iff.mpr ⟨reads, admits_of_isTerm reads admitted⟩]
      change (if term.negated = true then _ else _) = _
      rw [plain]
      rfl

/-- A wrong word ends the reading with its error. -/
theorem Fault.readFrom_eq {mode : Mode} {position : Nat} {place : Place} {token : List Char}
    {rest : List (List Char)} {error : Error} (fault : Fault mode position place token rest error) :
    readFrom mode place position (token :: rest) = .error error := by
  cases fault with
  | misplacedAnd spells =>
      simp only [readFrom, readClauses.eq_def _ _ _ (token :: rest), isAnd_iff.mpr spells, if_true]
  | trailingAnd spells =>
      simp only [readFrom, readClauses.eq_def _ _ _ [token], isAnd_iff.mpr spells, if_true,
        List.isEmpty_nil, Bool.false_eq_true, if_false]
  | trailingNot free spells =>
      obtain ⟨clauseRequired, rfl⟩ := Place.exists_ofRequired free
      have noAnd : isAnd token = false := by
        rw [Bool.eq_false_iff, ne_eq, isAnd_iff]
        exact fun other => not_spells_not other spells
      simp only [readFrom_ofRequired, readClauses.eq_def _ _ _ [token], noAnd,
        isNot_iff.mpr spells, Bool.false_eq_true, if_true, if_false]
  | malformed solid noConnective =>
      cases place with
      | plainTerm =>
          rw [readFrom_plainTerm, readTerm_of_not_isTerm solid]
          rfl
      | clause =>
          obtain ⟨noAnd, noNot⟩ := noConnective (by decide)
          rw [readFrom, readClauses_term noAnd noNot, readTerm_of_not_isTerm solid]
          rfl
      | operator =>
          obtain ⟨noAnd, noNot⟩ := noConnective (by decide)
          rw [readFrom, readClauses_term noAnd noNot, readTerm_of_not_isTerm solid]
          rfl
  | @negated _ term _ reads signed admitted =>
      rw [readFrom_plainTerm, readTerm_eq_ok_iff.mpr ⟨reads, admitted⟩]
      change (if term.negated = true then _ else _) = _
      rw [signed]
      rfl
  | refused reads refuses =>
      by_cases free : place = .plainTerm
      · subst free
        rw [readFrom_plainTerm, refuses.readTerm_eq reads]
        rfl
      · obtain ⟨clauseRequired, rfl⟩ := Place.exists_ofRequired free
        rw [readFrom_ofRequired, readClauses_term (reads.not_spells (by decide))
          (reads.not_spells (by decide)), refuses.readTerm_eq reads]
        rfl

/-- What is read after words that may stand one after the other is read as if they were not
there, but for the clauses that they form. -/
theorem Leads.readFrom_append {mode : Mode} {place last : Place} {before : List (List Char)}
    (leads : Leads place before last) (admitted : mode.AdmitsAll before)
    {rest : List (List Char)} (more : rest = [] → last = .operator) (position : Nat) :
    ∃ clauses, readFrom mode place position (before ++ rest) =
      (readFrom mode last (position + before.length) rest).map (clauses ++ ·) := by
  -- On the words before: what they form is not said, as no error depends on it.
  induction leads generalizing position with
  | nil => exact ⟨[], (id_map _).symm⟩
  | @cons place next last token before step later ih =>
      obtain ⟨first, others⟩ := admitsAll_cons_iff.mp admitted
      obtain ⟨clauses, read⟩ := ih others more (position + 1)
      have follows : before ++ rest = [] → next = .operator := by
        intro nothing
        obtain ⟨rfl, rfl⟩ := List.append_eq_nil_iff.mp nothing
        cases later
        exact more rfl
      obtain ⟨own, readFirst⟩ := step.readFrom_eq first follows position
      refine ⟨own ++ clauses, ?_⟩
      rw [List.cons_append, readFirst, read, List.length_cons, Nat.add_right_comm position,
        Nat.add_assoc position]
      cases readFrom mode last (position + (before.length + 1)) rest <;> simp [Except.map]

/-- Some word is wrong, and those before it may stand where they do. -/
def GoesWrong (mode : Mode) (place : Place) (position : Nat) (tokens : List (List Char))
    (error : Error) : Prop :=
  ∃ before token rest last, tokens = before ++ token :: rest ∧ Leads place before last ∧
    mode.AdmitsAll before ∧ Fault mode (position + before.length) last token rest error

theorem Fault.goesWrong {mode : Mode} {position : Nat} {place : Place} {token : List Char}
    {rest : List (List Char)} {error : Error} (fault : Fault mode position place token rest error) :
    GoesWrong mode place position (token :: rest) error :=
  ⟨[], token, rest, place, rfl, .nil, admitsAll_nil mode, fault⟩

theorem GoesWrong.cons {mode : Mode} {position : Nat} {place next : Place} {token : List Char}
    {rest : List (List Char)} {error : Error} (step : Step place token next)
    (admitted : mode.AdmitsAll [token]) (wrong : GoesWrong mode next (position + 1) rest error) :
    GoesWrong mode place position (token :: rest) error := by
  obtain ⟨before, found, after, last, rfl, leads, others, fault⟩ := wrong
  refine ⟨token :: before, found, after, last, rfl, .cons step leads,
    admitsAll_cons_iff.mpr ⟨admitted, others⟩, ?_⟩
  rwa [List.length_cons, Nat.add_comm before.length, ← Nat.add_assoc]

theorem fault_of_readTerm {mode : Mode} {position : Nat} {place : Place} {token : List Char}
    {error : Error}
    (noConnective : place ≠ .plainTerm → ¬Spells "and" token ∧ ¬Spells "not" token)
    (fails : readTerm mode token position place.expected = .error error)
    (rest : List (List Char)) : Fault mode position place token rest error := by
  rcases readTerm_eq_error_iff.mp fails with ⟨solid, rfl⟩ | ⟨term, reads, refuses⟩
  · exact .malformed solid noConnective
  · exact .refused reads refuses

/-- The reader fails at the first wrong word. -/
theorem goesWrong_of_readClauses {mode : Mode} {clauseRequired : Bool} {position : Nat}
    {tokens : List (List Char)} {error : Error}
    (fails : readClauses mode clauseRequired position tokens = .error error) :
    GoesWrong mode (.ofRequired clauseRequired) position tokens error := by
  -- The cases: no word; `AND` before a clause, as the last word, between clauses; `NOT` as the
  -- last word, before another one; a term.
  fun_induction readClauses mode clauseRequired position tokens with
  | case1 clauseRequired position => cases fails
  | case2 position token rest spells =>
      cases fails
      exact (Fault.misplacedAnd (isAnd_iff.mp spells)).goesWrong
  | case3 clauseRequired position token rest spells free last =>
      obtain rfl := List.isEmpty_iff.mp last
      rw [Bool.not_eq_true] at free
      subst free
      cases fails
      exact (Fault.trailingAnd (isAnd_iff.mp spells)).goesWrong
  | case4 clauseRequired position token rest spells free more ih =>
      rw [Bool.not_eq_true] at free
      subst free
      exact (ih fails).cons (.and (isAnd_iff.mp spells))
        (admitsAll_of_spells (by decide) (isAnd_iff.mp spells))
  | case5 clauseRequired position token notAnd spells =>
      cases fails
      exact (Fault.trailingNot (Place.ofRequired_ne_plainTerm _) (isNot_iff.mp spells)).goesWrong
  | case6 clauseRequired position token notAnd spells next rest ih =>
      refine GoesWrong.cons (.not (Place.ofRequired_ne_plainTerm _) (isNot_iff.mp spells))
        (admitsAll_of_spells (by decide) (isNot_iff.mp spells)) ?_
      rcases bind_eq_error_iff.mp fails with first | ⟨term, first, fails⟩
      · exact (fault_of_readTerm (absurd rfl) first rest).goesWrong
      · obtain ⟨reads, admitted⟩ := readTerm_eq_ok_iff.mp first
        cases signed : term.negated with
        | true =>
            rw [signed] at fails
            cases fails
            exact (Fault.negated reads signed admitted).goesWrong
        | false =>
            rw [signed] at fails
            rcases bind_eq_error_iff.mp fails with later | ⟨clauses, -, done⟩
            · exact (ih later).cons (.plain reads signed) (admitsAll_of_isTerm reads admitted)
            · cases done
  | case7 clauseRequired position token rest notAnd notNot expected =>
      rename_i ih
      have wording : expected = (Place.ofRequired clauseRequired).expected := by
        cases clauseRequired <;> rfl
      rw [wording] at fails
      rcases bind_eq_error_iff.mp fails with first | ⟨term, first, fails⟩
      · exact (fault_of_readTerm (fun _ => ⟨mt isAnd_iff.mpr notAnd, mt isNot_iff.mpr notNot⟩)
          first rest).goesWrong
      · obtain ⟨reads, admitted⟩ := readTerm_eq_ok_iff.mp first
        rcases bind_eq_error_iff.mp fails with later | ⟨clauses, -, done⟩
        · exact (ih later).cons (.term (Place.ofRequired_ne_plainTerm _) reads)
            (admitsAll_of_isTerm reads admitted)
        · cases done

theorem GoesWrong.readFrom_eq {mode : Mode} {place : Place} {position : Nat}
    {tokens : List (List Char)} {error : Error}
    (wrong : GoesWrong mode place position tokens error) :
    readFrom mode place position tokens = .error error := by
  obtain ⟨before, token, rest, last, rfl, leads, admitted, fault⟩ := wrong
  have follows : token :: rest = [] → last = .operator := nofun
  obtain ⟨clauses, read⟩ := leads.readFrom_append admitted follows position
  rw [read, fault.readFrom_eq]
  rfl

/-- A text is refused, in either mode, with the error of its first wrong word. -/
theorem parse_eq_error_iff {mode : Mode} {text : String} {error : Error} :
    parse mode text = .error error ↔
      GoesWrong mode .clause 0 (Text.words text.toList) error := by
  unfold parse
  constructor
  · intro fails
    cases read : readClauses mode true 0 (Text.words text.toList) with
    | ok clauses =>
        rw [read] at fails
        cases fails
    | error other =>
        rw [read] at fails
        cases fails
        exact goesWrong_of_readClauses read
  · intro wrong
    have fails : readClauses mode true 0 (Text.words text.toList) = .error error :=
      wrong.readFrom_eq
    rw [fails]
    rfl

/-! ## The first wrong word -/

/-- A wrong word is the last one, where more has to follow, or it is wrong whatever follows. -/
theorem Fault.trailing_or_forall {mode : Mode} {position : Nat} {place : Place}
    {token : List Char} {rest : List (List Char)} {error : Error}
    (fault : Fault mode position place token rest error) :
    (rest = [] ∧ (Spells "and" token ∨ Spells "not" token)) ∨
      ∀ others, Fault mode position place token others error := by
  cases fault with
  | misplacedAnd spells => exact .inr fun _ => .misplacedAnd spells
  | trailingAnd spells => exact .inl ⟨rfl, .inl spells⟩
  | trailingNot _ spells => exact .inl ⟨rfl, .inr spells⟩
  | malformed solid noConnective => exact .inr fun _ => .malformed solid noConnective
  | negated reads signed admitted => exact .inr fun _ => .negated reads signed admitted
  | refused reads refuses => exact .inr fun _ => .refused reads refuses

/-- A syntax error names the wrong word and its number. -/
theorem Fault.eq_of_filterSyntax {mode : Mode} {position named : Nat} {place : Place}
    {token : List Char} {rest : List (List Char)} {text expected : String}
    (fault : Fault mode position place token rest (.filterSyntax text named expected)) :
    text = String.ofList token ∧ named = position := by
  cases fault with
  | misplacedAnd => exact ⟨rfl, rfl⟩
  | trailingAnd => exact ⟨rfl, rfl⟩
  | trailingNot => exact ⟨rfl, rfl⟩
  | malformed => exact ⟨rfl, rfl⟩
  | negated => exact ⟨rfl, rfl⟩
  | refused _ refuses => cases refuses

theorem Fault.isFilterError {mode : Mode} {position : Nat} {place : Place} {token : List Char}
    {rest : List (List Char)} {error : Error} (fault : Fault mode position place token rest error) :
    error.isFilterError = true := by
  cases fault with
  | misplacedAnd => rfl
  | trailingAnd => rfl
  | trailingNot => rfl
  | malformed => rfl
  | negated => rfl
  | refused _ refuses => cases refuses <;> rfl

end

/-- A term with a known key, no sign and no wildcard may stand at every place. -/
theorem isTerm_identifier : IsTerm "id:x".toList ⟨"id", "x", false⟩ :=
  isTerm_iff.mpr ⟨false, ['i', 'd'], ['x'], by decide, by decide⟩

theorem admits_identifier [Wildcard.Compiler] (mode : Mode) : mode.Admits ⟨"id", "x", false⟩ :=
  ⟨fun wild => absurd wild (by decide), fun _ => by decide⟩

theorem Place.step_identifier (place : Place) : Step place "id:x".toList .operator := by
  by_cases free : place = .plainTerm
  · subst free
    exact .plain isTerm_identifier rfl
  · exact .term free isTerm_identifier

/-- Words that may stand one after the other begin some accepted query. -/
theorem Leads.exists_parse_eq_ok [Wildcard.Compiler] {mode : Mode} {place : Place}
    {before : List (List Char)} (leads : Leads .clause before place)
    (admitted : mode.AdmitsAll before)
    (solid : ∀ word ∈ before, word ≠ [] ∧ ∀ c ∈ word, Text.isBlank c = false) :
    ∃ text query, parse mode text = .ok query ∧ before <+: Text.words text.toList := by
  have word : ∀ word ∈ before ++ ["id:x".toList],
      word ≠ [] ∧ ∀ c ∈ word, Text.isBlank c = false := by
    rw [List.forall_mem_append, List.forall_mem_singleton]
    exact ⟨solid, Text.solid_of_mem_words (show _ ∈ Text.words "id:x".toList by decide)⟩
  obtain ⟨text, found⟩ := Text.exists_words_eq word
  -- The term may stand at every place, so it ends the query wherever the words lead.
  have follows : ["id:x".toList] = [] → place = .operator := nofun
  obtain ⟨clauses, read⟩ := leads.readFrom_append admitted follows 0
  obtain ⟨own, readLast⟩ := place.step_identifier.readFrom_eq
    (admitsAll_of_isTerm isTerm_identifier (admits_identifier mode)) (fun _ => rfl)
    (0 + before.length)
  refine ⟨String.ofList text, ofClauses (clauses ++ (own ++ [])), ?_, ?_⟩
  · rw [parse, String.toList_ofList, found]
    change (readFrom mode .clause 0 _).map ofClauses = _
    rw [read, readLast]
    rfl
  · rw [String.toList_ofList, found]
    exact List.prefix_append before _

/-- No query that a mode accepts goes on from words of which the last is wrong in itself. -/
theorem not_prefix_of_forall_fault [Wildcard.Compiler] {mode : Mode} {place : Place}
    {before : List (List Char)} {token : List Char} {error : Error}
    (leads : Leads .clause before place) (admitted : mode.AdmitsAll before)
    (fault : ∀ rest, Fault mode (0 + before.length) place token rest error)
    {text : String} {query : Option Node} (read : parse mode text = .ok query) :
    ¬before ++ [token] <+: Text.words text.toList := by
  rintro ⟨rest, whole⟩
  have wrong : GoesWrong mode .clause 0 (Text.words text.toList) error :=
    ⟨before, token, rest, place, by rw [← whole, List.append_assoc]; rfl, leads, admitted,
      fault rest⟩
  rw [parse_eq_error_iff.mpr wrong] at read
  cases read

/-- Every error of a query is about its text.  A syntax error names a word and its number: the
words before it begin a query that the same mode accepts, and with the word itself no such
query begins, unless it is the last word, `AND` or `NOT`, and lacks what follows. -/
theorem parse_error_names_first_wrong_word [Wildcard.Compiler] {mode : Mode} {text : String}
    {error : Error} (fails : parse mode text = .error error) :
    error.isFilterError = true ∧
    ∀ token position expected, error = .filterSyntax token position expected →
      position < (Text.words text.toList).length ∧
      (Text.words text.toList)[position]? = some token.toList ∧
      (∃ longer query, parse mode longer = .ok query ∧
        (Text.words text.toList).take position <+: Text.words longer.toList) ∧
      ((∀ longer query, parse mode longer = .ok query →
          ¬(Text.words text.toList).take (position + 1) <+: Text.words longer.toList) ∨
        position + 1 = (Text.words text.toList).length ∧
          (Spells "and" token.toList ∨ Spells "not" token.toList)) := by
  obtain ⟨before, word, rest, place, whole, leads, admitted, fault⟩ :=
    parse_eq_error_iff.mp fails
  refine ⟨fault.isFilterError, ?_⟩
  rintro token position expected rfl
  obtain ⟨rfl, rfl⟩ := fault.eq_of_filterSyntax
  have solid : ∀ word ∈ before, word ≠ [] ∧ ∀ c ∈ word, Text.isBlank c = false := by
    intro word member
    have among : word ∈ Text.words text.toList := by
      rw [whole]
      exact List.mem_append_left _ member
    exact Text.solid_of_mem_words among
  have start : (Text.words text.toList).take (0 + before.length) = before := by
    rw [whole, Nat.zero_add, List.take_left]
  have next : (Text.words text.toList).take (0 + before.length + 1) = before ++ [word] := by
    rw [whole, Nat.zero_add, List.append_cons]
    exact List.take_left' (by simp)
  rw [start, next, whole, String.toList_ofList]
  refine ⟨by simp, by simp, leads.exists_parse_eq_ok admitted solid, ?_⟩
  rcases fault.trailing_or_forall with ⟨rfl, trailing⟩ | always
  · exact .inr ⟨by simp, trailing⟩
  · exact .inl fun _ _ read => not_prefix_of_forall_fault leads admitted always read

section

attribute [local instance] Wildcard.Compiler.bounded

theorem parse_error_names_first_wrong_word_negated :
    let text := " type:recipe aNd NOT -tier:must id:a"
    parse .strict text =
        .error (.filterSyntax "-tier:must" 3 "a term without '-' after 'NOT'") ∧
      3 < (Text.words text.toList).length ∧
      (Text.words text.toList)[3]? = some "-tier:must".toList ∧
      (∃ longer query, parse .strict longer = .ok query ∧
        (Text.words text.toList).take 3 <+: Text.words longer.toList) ∧
      ∀ longer query, parse .strict longer = .ok query →
        ¬(Text.words text.toList).take 4 <+: Text.words longer.toList := by
  intro text
  have found : Text.words text.toList =
      ["type:recipe".toList, "aNd".toList, "NOT".toList] ++ "-tier:must".toList ::
        ["id:a".toList] := by decide
  have kind : IsTerm "type:recipe".toList ⟨"type", "recipe", false⟩ :=
    isTerm_iff.mpr ⟨false, "type".toList, "recipe".toList, by decide, by decide⟩
  have tier : IsTerm "-tier:must".toList ⟨"tier", "must", true⟩ :=
    isTerm_iff.mpr ⟨true, "tier".toList, "must".toList, by decide, by decide⟩
  have leads : Leads .clause ["type:recipe".toList, "aNd".toList, "NOT".toList] .plainTerm :=
    .cons (.term (by decide) kind) (.cons (.and (by decide)) (.cons (.not (by decide) (by decide))
      .nil))
  have admitted : Mode.strict.AdmitsAll ["type:recipe".toList, "aNd".toList, "NOT".toList] := by
    have and : Spells "and" "aNd".toList := by decide
    have not : Spells "not" "NOT".toList := by decide
    rw [admitsAll_term_iff kind, admitsAll_word_iff (by decide) and]
    exact ⟨by decide, admitsAll_of_spells (by decide) not⟩
  have fault : Fault .strict 3 .plainTerm "-tier:must".toList ["id:a".toList]
      (.filterSyntax "-tier:must" 3 "a term without '-' after 'NOT'") :=
    .negated tier rfl (by decide)
  have fails : parse .strict text =
      .error (.filterSyntax "-tier:must" 3 "a term without '-' after 'NOT'") :=
    parse_eq_error_iff.mpr ⟨_, _, _, _, found, leads, admitted, fault⟩
  obtain ⟨-, named⟩ := parse_error_names_first_wrong_word fails
  obtain ⟨inside, found, begins, dead | trailing⟩ := named _ _ _ rfl
  · exact ⟨fails, inside, found, begins, dead⟩
  · exact absurd trailing.1 (by decide)

end

end Guidebook.Query
