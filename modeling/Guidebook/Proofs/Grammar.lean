import Guidebook.Proofs.Words
import Guidebook.Query.Parser

/-!
# The grammar of queries

What it means that the words of a text form a query, and which query they form,
without reference to how a query is read.  The reader goes through the words once
and knows only whether a clause has to follow; this module shows that it accepts
exactly the words of the grammar, and gives each the query that the grammar gives
it.
-/

namespace Guidebook.Query

/-- A token spells a word in any case of its ASCII letters. -/
def Spells (word : String) (token : List Char) : Prop :=
  token.map Char.toLower = word.toList

instance (word : String) (token : List Char) : Decidable (Spells word token) :=
  inferInstanceAs (Decidable (_ = _))

/-- A token that has the form of a term: a key without a colon, a colon and a value,
behind one `-` if the term is negated. -/
inductive IsTerm : (token : List Char) → Term → Prop where
  | plain {key value : List Char} (keyed : key ≠ []) (valued : value ≠ [])
      (first : ':' ∉ key) (unsigned : key.head? ≠ some '-') :
      IsTerm (key ++ ':' :: value)
        ⟨String.ofList (Text.lower key), String.ofList value, false⟩
  | negated {key value : List Char} (keyed : key ≠ []) (valued : value ≠ [])
      (first : ':' ∉ key) :
      IsTerm ('-' :: (key ++ ':' :: value))
        ⟨String.ofList (Text.lower key), String.ofList value, true⟩

/-- The tokens of one clause: a term, or `NOT` and a term without `-`. -/
inductive IsClause : (tokens : List (List Char)) → Node → Prop where
  | term {token : List Char} {term : Term} (reads : IsTerm token term) :
      IsClause [token] (.term term)
  | not {word token : List Char} {term : Term} (spells : Spells "not" word)
      (reads : IsTerm token term) (plain : term.negated = false) :
      IsClause [word, token] (.not (.term term))

/-- The tokens of one clause or of several, where `AND` may stand between two. -/
inductive AreClauses : (tokens : List (List Char)) → (clauses : List Node) → Prop where
  | last {tokens : List (List Char)} {clause : Node} (reads : IsClause tokens clause) :
      AreClauses tokens [clause]
  | next {tokens rest : List (List Char)} {clause : Node} {clauses : List Node}
      (reads : IsClause tokens clause) (later : AreClauses rest clauses) :
      AreClauses (tokens ++ rest) (clause :: clauses)
  | and {tokens rest : List (List Char)} {word : List Char} {clause : Node}
      {clauses : List Node} (reads : IsClause tokens clause) (spells : Spells "and" word)
      (later : AreClauses rest clauses) :
      AreClauses (tokens ++ word :: rest) (clause :: clauses)

/-- The query that tokens form: none, the only clause, or the conjunction of all
clauses. -/
inductive IsQuery : (tokens : List (List Char)) → Option Node → Prop where
  | none : IsQuery [] none
  | clause {tokens : List (List Char)} {clause : Node} (reads : IsClause tokens clause) :
      IsQuery tokens (some clause)
  | conjunction {tokens : List (List Char)} {clauses : List Node}
      (read : AreClauses tokens clauses) (several : 2 ≤ clauses.length) :
      IsQuery tokens (some (.and clauses))

/-! ## Words and terms -/

theorem isAnd_iff {token : List Char} : isAnd token = true ↔ Spells "and" token := by
  have lower : Text.asciiLower = Char.toLower := funext Text.asciiLower_eq_toLower
  rw [isAnd, Text.eqAsciiFold, beq_iff_eq, lower, Spells]
  rfl

theorem isNot_iff {token : List Char} : isNot token = true ↔ Spells "not" token := by
  have lower : Text.asciiLower = Char.toLower := funext Text.asciiLower_eq_toLower
  rw [isNot, Text.eqAsciiFold, beq_iff_eq, lower, Spells]
  rfl

/-- `AND` and `NOT` are different words. -/
theorem not_spells_not {token : List Char} (spells : Spells "and" token) :
    ¬Spells "not" token := by
  intro other
  rw [Spells] at spells other
  rw [spells] at other
  exact absurd other (by decide)

/-- A word without a colon has not the form of a term. -/
theorem IsTerm.not_spells {token : List Char} {term : Term} (reads : IsTerm token term)
    {word : String} (plain : ':' ∉ word.toList) : ¬Spells word token := by
  intro spells
  have colon : ':' ∈ token := by
    cases reads <;> simp
  have lowered : ':' ∈ token.map Char.toLower := List.mem_map.mpr ⟨':', colon, rfl⟩
  rw [spells] at lowered
  exact plain lowered

/-- A text is cut into a key and a value exactly at its first colon. -/
theorem cutAt?_colon_iff {body key value : List Char} :
    Text.cutAt? ':' body = some (key, value) ↔ body = key ++ ':' :: value ∧ ':' ∉ key := by
  constructor
  · exact Text.eq_of_cutAt?
  · rintro ⟨rfl, absent⟩
    exact Text.cutAt?_append absent value

/-- A body and its sign are the parts of a term if the body has a key and a value. -/
theorem parts_eq_some_iff {sign negated : Bool} {body key value : List Char} :
    (match Text.cutAt? ':' body with
      | some (key, value) =>
          if key.isEmpty || value.isEmpty then none else some (sign, key, value)
      | none => none) = some (negated, key, value) ↔
    negated = sign ∧ body = key ++ ':' :: value ∧ key ≠ [] ∧ value ≠ [] ∧ ':' ∉ key := by
  constructor
  · intro parts
    split at parts
    · next found =>
        split at parts
        · cases parts
        · next filled =>
            cases parts
            obtain ⟨shape, first⟩ := cutAt?_colon_iff.mp found
            simp only [Bool.or_eq_true, List.isEmpty_iff, not_or] at filled
            exact ⟨rfl, shape, filled.1, filled.2, first⟩
    · cases parts
  · rintro ⟨rfl, shape, keyed, valued, first⟩
    rw [cutAt?_colon_iff.mpr ⟨shape, first⟩]
    simp [keyed, valued]

theorem termParts?_minus (body : List Char) :
    termParts? ('-' :: body) = match Text.cutAt? ':' body with
      | some (key, value) =>
          if key.isEmpty || value.isEmpty then none else some (true, key, value)
      | none => none := rfl

theorem termParts?_plain {token : List Char} (unsigned : token.head? ≠ some '-') :
    termParts? token = match Text.cutAt? ':' token with
      | some (key, value) =>
          if key.isEmpty || value.isEmpty then none else some (false, key, value)
      | none => none := by
  unfold termParts?
  split
  next sign body signed =>
    split at signed
    · simp at unsigned
    · cases signed
      rfl

theorem head?_term {key : List Char} (keyed : key ≠ []) (value : List Char) :
    (key ++ ':' :: value).head? = key.head? := by
  cases key with
  | nil => contradiction
  | cons c rest => rfl

/-- The tokens that have the form of a term are those that a term is read from. -/
theorem isTerm_iff {token : List Char} {term : Term} :
    IsTerm token term ↔ ∃ negated key value, termParts? token = some (negated, key, value) ∧
      term = ⟨String.ofList (Text.lower key), String.ofList value, negated⟩ := by
  constructor
  · intro reads
    cases reads with
    | @plain key value keyed valued first unsigned =>
        have bare : (key ++ ':' :: value).head? ≠ some '-' := by
          rwa [head?_term keyed]
        refine ⟨false, key, value, ?_, rfl⟩
        rw [termParts?_plain bare]
        exact parts_eq_some_iff.mpr ⟨rfl, rfl, keyed, valued, first⟩
    | @negated key value keyed valued first =>
        refine ⟨true, key, value, ?_, rfl⟩
        rw [termParts?_minus]
        exact parts_eq_some_iff.mpr ⟨rfl, rfl, keyed, valued, first⟩
  · rintro ⟨negated, key, value, parts, rfl⟩
    by_cases signed : token.head? = some '-'
    · obtain ⟨body, rfl⟩ := List.head?_eq_some_iff.mp signed
      rw [termParts?_minus] at parts
      obtain ⟨rfl, rfl, keyed, valued, first⟩ := parts_eq_some_iff.mp parts
      exact .negated keyed valued first
    · rw [termParts?_plain signed] at parts
      obtain ⟨rfl, rfl, keyed, valued, first⟩ := parts_eq_some_iff.mp parts
      rw [head?_term keyed] at signed
      exact .plain keyed valued first signed

/-- A token has the form of one term at most. -/
theorem IsTerm.unique {token : List Char} {left right : Term} (reads : IsTerm token left)
    (other : IsTerm token right) : left = right := by
  obtain ⟨negated, key, value, parts, rfl⟩ := isTerm_iff.mp reads
  obtain ⟨_, _, _, same, rfl⟩ := isTerm_iff.mp other
  rw [parts] at same
  cases same
  rfl

section

variable [Wildcard.Compiler]

/-- The terms that a mode lets pass: a wildcard can be made into a matcher, and a strict
query has recognised keys. -/
def Mode.Admits (mode : Mode) (term : Term) : Prop :=
  (term.isWildcard = true → Wildcard.refusal? term.value.toList = none) ∧
    (mode = .strict → term.isRecognized = true)

instance (mode : Mode) (term : Term) : Decidable (mode.Admits term) :=
  inferInstanceAs (Decidable (_ ∧ _))

theorem make_eq_ok_iff {key value : String} {negated : Bool} {term : Term} :
    Term.make key value negated = .ok term ↔
      term = ⟨String.ofList (Text.lower key.toList), value, negated⟩ ∧
        (term.isWildcard = true → Wildcard.refusal? term.value.toList = none) := by
  unfold Term.make
  by_cases wild :
      (⟨String.ofList (Text.lower key.toList), value, negated⟩ : Term).isWildcard = true
  · simp only [wild, if_true]
    cases refused : Wildcard.refusal? value.toList with
    | none =>
        constructor
        · rintro ⟨⟩
          exact ⟨rfl, fun _ => refused⟩
        · rintro ⟨rfl, -⟩
          rfl
    | some reason =>
        constructor
        · rintro ⟨⟩
        · rintro ⟨rfl, compiles⟩
          rw [compiles wild] at refused
          cases refused
  · simp only [wild]
    constructor
    · rintro ⟨⟩
      exact ⟨rfl, fun matcher => absurd matcher wild⟩
    · rintro ⟨rfl, -⟩
      rfl

/-- A term is read from exactly the tokens that have its form, if the mode lets it pass. -/
theorem readTerm_eq_ok_iff {mode : Mode} {token : List Char} {position : Nat}
    {expected : Expected} {term : Term} :
    readTerm mode token position expected = .ok term ↔ IsTerm token term ∧ mode.Admits term := by
  rw [isTerm_iff]
  unfold readTerm
  cases parts : termParts? token with
  | none => simp
  | some found =>
      obtain ⟨negated, key, value⟩ := found
      simp only [bind_eq_ok_iff, make_eq_ok_iff, String.toList_ofList]
      constructor
      · rintro ⟨read, ⟨rfl, compiles⟩, passes⟩
        split at passes
        · cases passes
        · next admitted =>
            cases passes
            refine ⟨⟨negated, key, value, rfl, rfl⟩, compiles, ?_⟩
            intro strict
            simpa [strict] using admitted
      · rintro ⟨⟨_, _, _, ⟨⟩, rfl⟩, compiles, recognized⟩
        refine ⟨_, ⟨rfl, compiles⟩, ?_⟩
        rw [if_neg]
        · rfl
        · rintro ⟨strict, unknown⟩
          simp [recognized strict] at unknown

end

/-! ## Clauses -/

/-- What may stand where a clause has to follow or, at the end of a clause, may follow. -/
inductive Continues : (clauseRequired : Bool) → (tokens : List (List Char)) →
    (clauses : List Node) → Prop where
  | done {clauseRequired : Bool} : Continues clauseRequired [] []
  | clauses {clauseRequired : Bool} {tokens : List (List Char)} {clauses : List Node}
      (read : AreClauses tokens clauses) : Continues clauseRequired tokens clauses
  | and {word : List Char} {rest : List (List Char)} {clauses : List Node}
      (spells : Spells "and" word) (read : AreClauses rest clauses) :
      Continues false (word :: rest) clauses

theorem AreClauses.ne_nil {tokens : List (List Char)} {clauses : List Node}
    (read : AreClauses tokens clauses) : tokens ≠ [] := by
  cases read with
  | last reads => cases reads <;> simp
  | next reads later => cases reads <;> simp
  | and reads spells later => simp

/-- Clauses are a first clause and what may follow it. -/
theorem areClauses_iff {tokens : List (List Char)} {clauses : List Node} :
    AreClauses tokens clauses ↔ ∃ own rest clause later, tokens = own ++ rest ∧
      clauses = clause :: later ∧ IsClause own clause ∧ Continues false rest later := by
  constructor
  · intro read
    cases read with
    | @last tokens clause reads =>
        exact ⟨tokens, [], clause, [], by simp, rfl, reads, .done⟩
    | next reads later => exact ⟨_, _, _, _, rfl, rfl, reads, .clauses later⟩
    | and reads spells later => exact ⟨_, _, _, _, rfl, rfl, reads, .and spells later⟩
  · rintro ⟨own, rest, clause, later, rfl, rfl, reads, continues⟩
    cases continues with
    | done =>
        rw [List.append_nil]
        exact .last reads
    | clauses read => exact .next reads read
    | and spells read => exact .and reads spells read

theorem areClauses_cons_iff {token : List Char} {rest : List (List Char)}
    {clauses : List Node} :
    AreClauses (token :: rest) clauses ↔
      (∃ term later, IsTerm token term ∧ clauses = .term term :: later ∧
        Continues false rest later) ∨
      (∃ next others term later, Spells "not" token ∧ rest = next :: others ∧
        IsTerm next term ∧ term.negated = false ∧ clauses = .not (.term term) :: later ∧
        Continues false others later) := by
  rw [areClauses_iff]
  constructor
  · rintro ⟨own, others, clause, later, shape, rfl, reads, continues⟩
    cases reads with
    | term reads =>
        cases shape
        exact .inl ⟨_, later, reads, rfl, continues⟩
    | not spells reads plain =>
        cases shape
        exact .inr ⟨_, others, _, later, spells, rfl, reads, plain, rfl, continues⟩
  · rintro (⟨term, later, reads, rfl, continues⟩ |
      ⟨next, others, term, later, spells, rfl, reads, plain, rfl, continues⟩)
    · exact ⟨[token], rest, _, later, rfl, rfl, .term reads, continues⟩
    · exact ⟨[token, next], others, _, later, rfl, rfl, .not spells reads plain, continues⟩

/-- What may stand somewhere is decided by its first token: clauses, or `AND` and clauses
where none is required. -/
theorem continues_cons_iff {clauseRequired : Bool} {token : List Char}
    {rest : List (List Char)} {clauses : List Node} :
    Continues clauseRequired (token :: rest) clauses ↔
      AreClauses (token :: rest) clauses ∨
        clauseRequired = false ∧ Spells "and" token ∧ AreClauses rest clauses := by
  constructor
  · intro continues
    cases continues with
    | clauses read => exact .inl read
    | and spells read => exact .inr ⟨rfl, spells, read⟩
  · rintro (read | ⟨rfl, spells, read⟩)
    · exact .clauses read
    · exact .and spells read

theorem continues_and_iff {clauseRequired : Bool} {token : List Char}
    {rest : List (List Char)} {clauses : List Node} (spells : Spells "and" token) :
    Continues clauseRequired (token :: rest) clauses ↔
      clauseRequired = false ∧ AreClauses rest clauses := by
  rw [continues_cons_iff, areClauses_cons_iff]
  constructor
  · rintro ((⟨term, later, reads, -⟩ | ⟨next, others, term, later, other, -⟩) | ⟨free, -, read⟩)
    · exact absurd spells (reads.not_spells (by decide))
    · exact absurd other (not_spells_not spells)
    · exact ⟨free, read⟩
  · rintro ⟨free, read⟩
    exact .inr ⟨free, spells, read⟩

theorem continues_not_iff {clauseRequired : Bool} {token : List Char}
    {rest : List (List Char)} {clauses : List Node} (spells : Spells "not" token) :
    Continues clauseRequired (token :: rest) clauses ↔
      ∃ next others term later, rest = next :: others ∧ IsTerm next term ∧
        term.negated = false ∧ clauses = .not (.term term) :: later ∧
        Continues false others later := by
  rw [continues_cons_iff, areClauses_cons_iff]
  constructor
  · rintro ((⟨term, later, reads, -⟩ | ⟨next, others, term, later, -, clause⟩) | ⟨-, other, -⟩)
    · exact absurd spells (reads.not_spells (by decide))
    · exact ⟨next, others, term, later, clause⟩
    · exact absurd spells (not_spells_not other)
  · rintro ⟨next, others, term, later, clause⟩
    exact .inl (.inr ⟨next, others, term, later, spells, clause⟩)

theorem continues_term_iff {clauseRequired : Bool} {token : List Char}
    {rest : List (List Char)} {clauses : List Node} (plainAnd : ¬Spells "and" token)
    (plainNot : ¬Spells "not" token) :
    Continues clauseRequired (token :: rest) clauses ↔
      ∃ term later, IsTerm token term ∧ clauses = .term term :: later ∧
        Continues false rest later := by
  rw [continues_cons_iff, areClauses_cons_iff]
  constructor
  · rintro ((clause | ⟨next, others, term, later, spells, -⟩) | ⟨-, spells, -⟩)
    · exact clause
    · exact absurd spells plainNot
    · exact absurd spells plainAnd
  · intro clause
    exact .inl (.inl clause)

/-! ## The reader -/

section

variable [Wildcard.Compiler]

/-- The mode lets pass every term among some tokens. -/
def Mode.AdmitsAll (mode : Mode) (tokens : List (List Char)) : Prop :=
  ∀ token ∈ tokens, ∀ term, IsTerm token term → mode.Admits term

theorem admitsAll_nil (mode : Mode) : mode.AdmitsAll [] := by
  intro token member
  cases member

/-- A connective is no term. -/
theorem admitsAll_word_iff {mode : Mode} {word : String} (plain : ':' ∉ word.toList)
    {token : List Char} (spells : Spells word token) (rest : List (List Char)) :
    mode.AdmitsAll (token :: rest) ↔ mode.AdmitsAll rest := by
  unfold Mode.AdmitsAll
  rw [List.forall_mem_cons]
  constructor
  · rintro ⟨-, admitted⟩
    exact admitted
  · intro admitted
    refine ⟨?_, admitted⟩
    intro term reads
    exact absurd spells (reads.not_spells plain)

theorem admitsAll_term_iff {mode : Mode} {token : List Char} {term : Term}
    (reads : IsTerm token term) (rest : List (List Char)) :
    mode.AdmitsAll (token :: rest) ↔ mode.Admits term ∧ mode.AdmitsAll rest := by
  unfold Mode.AdmitsAll
  rw [List.forall_mem_cons]
  constructor
  · rintro ⟨first, admitted⟩
    exact ⟨first term reads, admitted⟩
  · rintro ⟨first, admitted⟩
    refine ⟨?_, admitted⟩
    intro other same
    rwa [same.unique reads]

theorem admitsAll_cons_iff {mode : Mode} {token : List Char} {rest : List (List Char)} :
    mode.AdmitsAll (token :: rest) ↔ mode.AdmitsAll [token] ∧ mode.AdmitsAll rest := by
  simp [Mode.AdmitsAll]

theorem admitsAll_append_iff {mode : Mode} {left right : List (List Char)} :
    mode.AdmitsAll (left ++ right) ↔ mode.AdmitsAll left ∧ mode.AdmitsAll right :=
  List.forall_mem_append

theorem admitsAll_of_spells {mode : Mode} {word : String} (plain : ':' ∉ word.toList)
    {token : List Char} (spells : Spells word token) : mode.AdmitsAll [token] :=
  (admitsAll_word_iff plain spells []).mpr (admitsAll_nil mode)

theorem admitsAll_of_isTerm {mode : Mode} {token : List Char} {term : Term}
    (reads : IsTerm token term) (admitted : mode.Admits term) : mode.AdmitsAll [token] :=
  (admitsAll_term_iff reads []).mpr ⟨admitted, admitsAll_nil mode⟩

theorem admits_of_isTerm {mode : Mode} {token : List Char} {term : Term}
    (reads : IsTerm token term) (admitted : mode.AdmitsAll [token]) : mode.Admits term :=
  admitted token List.mem_cons_self term reads

/-- The reader accepts what may stand at its place, if the mode lets all terms pass, and
reads the clauses of the grammar. -/
theorem readClauses_eq_ok_iff {mode : Mode} {clauseRequired : Bool} {position : Nat}
    {tokens : List (List Char)} {clauses : List Node} :
    readClauses mode clauseRequired position tokens = .ok clauses ↔
      Continues clauseRequired tokens clauses ∧ mode.AdmitsAll tokens := by
  fun_induction readClauses mode clauseRequired position tokens generalizing clauses with
  | case1 clauseRequired position =>
      constructor
      · rintro ⟨⟩
        exact ⟨.done, admitsAll_nil mode⟩
      · rintro ⟨continues, -⟩
        cases continues with
        | done => rfl
        | clauses read => exact absurd rfl read.ne_nil
  | case2 position token rest spells =>
      rw [continues_and_iff (isAnd_iff.mp spells)]
      simp
  | case3 clauseRequired position token rest spells free last =>
      rw [continues_and_iff (isAnd_iff.mp spells), List.isEmpty_iff.mp last]
      constructor
      · rintro ⟨⟩
      · rintro ⟨⟨-, read⟩, -⟩
        exact absurd rfl read.ne_nil
  | case4 clauseRequired position token rest spells free more ih =>
      have required : Continues true rest clauses ↔ AreClauses rest clauses := by
        cases rest with
        | nil => simp at more
        | cons next others => simp [continues_cons_iff]
      rw [ih, required, continues_and_iff (isAnd_iff.mp spells),
        admitsAll_word_iff (by decide) (isAnd_iff.mp spells)]
      simp [free]
  | case5 clauseRequired position token notAnd spells =>
      rw [continues_not_iff (isNot_iff.mp spells)]
      simp
  | case6 clauseRequired position token notAnd spells next rest ih =>
      rw [continues_not_iff (isNot_iff.mp spells),
        admitsAll_word_iff (by decide) (isNot_iff.mp spells)]
      constructor
      · intro read
        obtain ⟨term, first, read⟩ := bind_eq_ok_iff.mp read
        obtain ⟨reads, admitted⟩ := readTerm_eq_ok_iff.mp first
        cases plain : term.negated with
        | true =>
            rw [plain] at read
            cases read
        | false =>
            rw [plain] at read
            obtain ⟨later, readLater, same⟩ := bind_eq_ok_iff.mp read
            cases same
            obtain ⟨continues, admitsLater⟩ := ih.mp readLater
            exact ⟨⟨next, rest, term, later, rfl, reads, plain, rfl, continues⟩,
              (admitsAll_term_iff reads rest).mpr ⟨admitted, admitsLater⟩⟩
      · rintro ⟨⟨_, _, term, later, ⟨⟩, reads, plain, rfl, continues⟩, admitted⟩
        obtain ⟨first, admitsLater⟩ := (admitsAll_term_iff reads rest).mp admitted
        refine bind_eq_ok_iff.mpr ⟨term, readTerm_eq_ok_iff.mpr ⟨reads, first⟩, ?_⟩
        rw [plain]
        exact bind_eq_ok_iff.mpr ⟨later, ih.mpr ⟨continues, admitsLater⟩, rfl⟩
  | case7 clauseRequired position token rest notAnd notNot expected =>
      rename_i ih
      rw [continues_term_iff (mt isAnd_iff.mpr notAnd) (mt isNot_iff.mpr notNot)]
      constructor
      · intro read
        obtain ⟨term, first, read⟩ := bind_eq_ok_iff.mp read
        obtain ⟨later, readLater, same⟩ := bind_eq_ok_iff.mp read
        cases same
        obtain ⟨reads, admitted⟩ := readTerm_eq_ok_iff.mp first
        obtain ⟨continues, admitsLater⟩ := ih.mp readLater
        exact ⟨⟨term, later, reads, rfl, continues⟩,
          (admitsAll_term_iff reads rest).mpr ⟨admitted, admitsLater⟩⟩
      · rintro ⟨⟨term, later, reads, rfl, continues⟩, admitted⟩
        obtain ⟨first, admitsLater⟩ := (admitsAll_term_iff reads rest).mp admitted
        refine bind_eq_ok_iff.mpr ⟨term, readTerm_eq_ok_iff.mpr ⟨reads, first⟩, ?_⟩
        exact bind_eq_ok_iff.mpr ⟨later, ih.mpr ⟨continues, admitsLater⟩, rfl⟩

end

/-! ## Queries -/

theorem isQuery_iff {tokens : List (List Char)} {query : Option Node} :
    IsQuery tokens query ↔
      ∃ clauses, Continues true tokens clauses ∧ ofClauses clauses = query := by
  constructor
  · intro forms
    cases forms with
    | none => exact ⟨[], .done, rfl⟩
    | @clause tokens clause reads => exact ⟨[clause], .clauses (.last reads), rfl⟩
    | @conjunction tokens clauses read several =>
        refine ⟨clauses, .clauses read, ?_⟩
        match clauses, several with
        | _ :: _ :: _, _ => rfl
  · rintro ⟨clauses, continues, rfl⟩
    cases continues with
    | done => exact .none
    | clauses read =>
        match clauses, read with
        | [_], .last reads => exact .clause reads
        | _ :: _ :: _, read => exact .conjunction read (by simp)

/-- A text is read, in either mode, as the query that its words form, if the mode lets all
terms pass. -/
theorem parse_eq_ok_iff [Wildcard.Compiler] {mode : Mode} {text : String} {query : Option Node} :
    parse mode text = .ok query ↔
      IsQuery (Text.words text.toList) query ∧ mode.AdmitsAll (Text.words text.toList) := by
  rw [isQuery_iff]
  unfold parse
  constructor
  · intro read
    cases found : readClauses mode true 0 (Text.words text.toList) with
    | error error =>
        rw [found] at read
        cases read
    | ok clauses =>
        rw [found] at read
        cases read
        obtain ⟨continues, admitted⟩ := readClauses_eq_ok_iff.mp found
        exact ⟨⟨clauses, continues, rfl⟩, admitted⟩
  · rintro ⟨⟨clauses, continues, rfl⟩, admitted⟩
    rw [readClauses_eq_ok_iff.mpr ⟨continues, admitted⟩]
    rfl

theorem exists_isQuery_iff {tokens : List (List Char)} :
    (∃ query, IsQuery tokens query) ↔ tokens = [] ∨ ∃ clauses, AreClauses tokens clauses := by
  constructor
  · rintro ⟨query, forms⟩
    cases forms with
    | none => exact .inl rfl
    | clause reads => exact .inr ⟨_, .last reads⟩
    | conjunction read several => exact .inr ⟨_, read⟩
  · rintro (rfl | ⟨clauses, read⟩)
    · exact ⟨none, .none⟩
    · exact ⟨_, isQuery_iff.mpr ⟨clauses, .clauses read, rfl⟩⟩

/-- A text whose wildcards over tags can be made into matchers is read leniently exactly
when its words, the runs of characters between blanks, are none or are clauses; and what
is read is the query that they form. -/
theorem parse_lenient_iff [Wildcard.Compiler] {text : String}
    (compiles : ∀ token ∈ Text.words text.toList, ∀ term, IsTerm token term →
      term.isWildcard = true → Wildcard.refusal? term.value.toList = none) :
    Text.Spaced text.toList (Text.words text.toList) ∧
    ((∃ query, parse .lenient text = .ok query) ↔
      Text.words text.toList = [] ∨ ∃ clauses, AreClauses (Text.words text.toList) clauses) ∧
    ∀ query, parse .lenient text = .ok query ↔ IsQuery (Text.words text.toList) query := by
  have admitted : Mode.lenient.AdmitsAll (Text.words text.toList) := by
    intro token member term reads
    exact ⟨compiles token member term reads, by rintro ⟨⟩⟩
  have parsed (query : Option Node) :
      parse .lenient text = .ok query ↔ IsQuery (Text.words text.toList) query := by
    rw [parse_eq_ok_iff]
    exact and_iff_left admitted
  refine ⟨Text.spaced_words _, ?_, parsed⟩
  rw [exists_congr parsed, exists_isQuery_iff]

section

attribute [local instance] Wildcard.Compiler.bounded

theorem parse_lenient_iff_mixed :
    let text := " NOT tag:pre* aNd -Type:A:b"
    (∀ token ∈ Text.words text.toList, ∀ term, IsTerm token term →
      term.isWildcard = true → Wildcard.refusal? term.value.toList = none) ∧
    parse .lenient text = .ok (some (.and
      [.not (.term ⟨"tag", "pre*", false⟩), .term ⟨"type", "A:b", true⟩])) := by
  intro text
  have found : Text.words text.toList =
      ["NOT".toList, "tag:pre*".toList, "aNd".toList, "-Type:A:b".toList] := by decide
  have compiles : ∀ token ∈ Text.words text.toList, ∀ term, IsTerm token term →
      term.isWildcard = true → Wildcard.refusal? term.value.toList = none := by
    have small : ∀ token ∈ Text.words text.toList, ∀ parts ∈ termParts? token,
        Wildcard.refusal? parts.2.2 = none := by
      rw [found]
      decide
    intro token member term reads _
    obtain ⟨negated, key, value, parts, rfl⟩ := isTerm_iff.mp reads
    rw [String.toList_ofList]
    exact small token member _ parts
  have wild : IsTerm "tag:pre*".toList ⟨"tag", "pre*", false⟩ :=
    isTerm_iff.mpr ⟨false, "tag".toList, "pre*".toList, by decide, by decide⟩
  have kind : IsTerm "-Type:A:b".toList ⟨"type", "A:b", true⟩ :=
    isTerm_iff.mpr ⟨true, "Type".toList, "A:b".toList, by decide, by decide⟩
  have forms : IsQuery (Text.words text.toList) (some (.and
      [.not (.term ⟨"tag", "pre*", false⟩), .term ⟨"type", "A:b", true⟩])) := by
    rw [found]
    refine .conjunction ?_ (by decide)
    exact .and (.not (by decide) wild rfl) (by decide) (.last (.term kind))
  exact ⟨compiles, ((parse_lenient_iff compiles).2.2 _).mpr forms⟩

end

end Guidebook.Query
