import Guidebook.Proofs.Grammar

/-!
# Queries one after the other

A query has no memory of where its clauses stand, so the words of two queries put
one after the other are a query again, which accepts what both accept.  The same
module compares the two ways to write a negation.
-/

namespace Guidebook.Query

/-! ## Clauses -/

/-- A conjunction accepts what all its parts accept. -/
theorem Node.acceptsAll_eq_all (summary : Summary) (children : List Node) :
    Node.acceptsAll summary children = children.all (·.accepts summary) := by
  induction children with
  | nil => rfl
  | cons child rest ih => rw [Node.acceptsAll, List.all_cons, ih]

/-- A query accepts what all its clauses accept. -/
theorem accepts_ofClauses (clauses : List Node) (summary : Summary) :
    accepts (ofClauses clauses) summary = clauses.all (·.accepts summary) := by
  match clauses with
  | [] => rfl
  | [clause] => simp [ofClauses, accepts]
  | first :: second :: rest =>
      change Node.accepts summary (.and (first :: second :: rest)) = _
      rw [Node.accepts, Node.acceptsAll_eq_all]

/-- Clauses may follow clauses, with or without `AND` between them. -/
theorem AreClauses.append {left right : List (List Char)} {first second : List Node}
    (before : AreClauses left first) (after : AreClauses right second) :
    AreClauses (left ++ right) (first ++ second) := by
  induction before with
  | last reads => exact .next reads after
  | next reads later ih =>
      rw [List.append_assoc]
      exact .next reads ih
  | and reads spells later ih =>
      rw [List.append_assoc]
      exact .and reads spells ih

theorem AreClauses.append_and {left right : List (List Char)} {word : List Char}
    {first second : List Node} (before : AreClauses left first) (spells : Spells "and" word)
    (after : AreClauses right second) :
    AreClauses (left ++ word :: right) (first ++ second) := by
  induction before with
  | last reads => exact .and reads spells after
  | next reads later ih =>
      rw [List.append_assoc]
      exact .next reads ih
  | and reads other later ih =>
      rw [List.append_assoc]
      exact .and reads other ih

theorem Continues.append {left right : List (List Char)} {first second : List Node}
    (before : Continues true left first) (after : Continues true right second) :
    Continues true (left ++ right) (first ++ second) := by
  cases before with
  | done => exact after
  | clauses read =>
      cases after with
      | done =>
          rw [List.append_nil, List.append_nil]
          exact .clauses read
      | clauses later => exact .clauses (read.append later)

theorem Continues.areClauses {tokens : List (List Char)} {clauses : List Node}
    (continues : Continues true tokens clauses) (words : tokens ≠ []) :
    AreClauses tokens clauses := by
  cases continues with
  | done => exact absurd rfl words
  | clauses read => exact read

/-! ## Texts -/

theorem words_append_space (left right : String) :
    Text.words (left ++ " " ++ right).toList =
      Text.words left.toList ++ Text.words right.toList := by
  rw [String.toList_append, String.toList_append, List.append_assoc]
  exact Text.words_append_of_isBlank rfl left.toList right.toList

theorem words_append_and (left right : String) :
    Text.words (left ++ " AND " ++ right).toList =
      Text.words left.toList ++ "AND".toList :: Text.words right.toList := by
  rw [String.toList_append, String.toList_append, List.append_assoc]
  change Text.words (left.toList ++ ' ' :: ("AND".toList ++ ' ' :: right.toList)) = _
  rw [Text.words_append_of_isBlank rfl, Text.words_append_of_isBlank rfl]
  rfl

/-- A query accepts exactly what two queries accept together. -/
def Conjoins (both first second : Option Node) : Prop :=
  ∀ summary, accepts both summary = (accepts first summary && accepts second summary)

/-- A query accepts exactly what another does not. -/
def Inverts (inverse query : Option Node) : Prop :=
  ∀ summary, accepts inverse summary = !accepts query summary

theorem conjoins_ofClauses (first second : List Node) :
    Conjoins (ofClauses (first ++ second)) (ofClauses first) (ofClauses second) := by
  intro summary
  rw [accepts_ofClauses, accepts_ofClauses, accepts_ofClauses, List.all_append]

/-- Filtering by a conjunction is filtering twice. -/
theorem Conjoins.filter {both first second : Option Node} (conjoins : Conjoins both first second)
    (summaries : List Summary) :
    summaries.filter (accepts both) =
      (summaries.filter (accepts first)).filter (accepts second) := by
  rw [List.filter_filter]
  refine List.filter_congr fun summary _ => ?_
  rw [conjoins, Bool.and_comm]

theorem Conjoins.symm {both first second : Option Node} (conjoins : Conjoins both first second) :
    Conjoins both second first := by
  intro summary
  rw [conjoins, Bool.and_comm]

variable {mode : Mode} {left right : String} {first second : Option Node}

theorem exists_parse_append_space [Wildcard.Compiler] (readsLeft : parse mode left = .ok first)
    (readsRight : parse mode right = .ok second) :
    ∃ both, parse mode (left ++ " " ++ right) = .ok both ∧ Conjoins both first second := by
  obtain ⟨forms, admitted⟩ := parse_eq_ok_iff.mp readsLeft
  obtain ⟨alsoForms, alsoAdmitted⟩ := parse_eq_ok_iff.mp readsRight
  obtain ⟨own, continues, rfl⟩ := isQuery_iff.mp forms
  obtain ⟨others, later, rfl⟩ := isQuery_iff.mp alsoForms
  refine ⟨ofClauses (own ++ others), parse_eq_ok_iff.mpr ?_, conjoins_ofClauses own others⟩
  rw [words_append_space]
  exact ⟨isQuery_iff.mpr ⟨_, continues.append later, rfl⟩,
    admitsAll_append_iff.mpr ⟨admitted, alsoAdmitted⟩⟩

theorem exists_parse_append_and [Wildcard.Compiler] (readsLeft : parse mode left = .ok first)
    (readsRight : parse mode right = .ok second) (leftWords : Text.words left.toList ≠ [])
    (rightWords : Text.words right.toList ≠ []) :
    ∃ both, parse mode (left ++ " AND " ++ right) = .ok both ∧ Conjoins both first second := by
  obtain ⟨forms, admitted⟩ := parse_eq_ok_iff.mp readsLeft
  obtain ⟨alsoForms, alsoAdmitted⟩ := parse_eq_ok_iff.mp readsRight
  obtain ⟨own, continues, rfl⟩ := isQuery_iff.mp forms
  obtain ⟨others, later, rfl⟩ := isQuery_iff.mp alsoForms
  have spells : Spells "and" "AND".toList := by decide
  have read := (continues.areClauses leftWords).append_and spells (later.areClauses rightWords)
  refine ⟨ofClauses (own ++ others), parse_eq_ok_iff.mpr ?_, conjoins_ofClauses own others⟩
  rw [words_append_and]
  refine ⟨isQuery_iff.mpr ⟨_, .clauses read, rfl⟩, admitsAll_append_iff.mpr ⟨admitted, ?_⟩⟩
  exact (admitsAll_word_iff (by decide) spells _).mpr alsoAdmitted

/-! ## Negations -/

theorem Term.accepts_negated (key value : String) (summary : Summary) :
    Term.accepts ⟨key, value, true⟩ summary = !Term.accepts ⟨key, value, false⟩ summary := by
  have alike : Term.asks ⟨key, value, true⟩ summary = Term.asks ⟨key, value, false⟩ summary := rfl
  simp [Term.accepts, alike]

/-- A single word that is a query is a term. -/
theorem exists_isTerm_of_parse [Wildcard.Compiler] {token : String} {query : Option Node}
    (single : Text.words token.toList = [token.toList]) (read : parse mode token = .ok query) :
    ∃ term, IsTerm token.toList term ∧ mode.Admits term ∧ query = some (.term term) := by
  obtain ⟨forms, admitted⟩ := parse_eq_ok_iff.mp read
  obtain ⟨clauses, continues, rfl⟩ := isQuery_iff.mp forms
  have areClauses := continues.areClauses (by simp [single])
  rw [single] at areClauses admitted
  rcases areClauses_cons_iff.mp areClauses with
    ⟨term, later, reads, rfl, rest⟩ | ⟨_, _, _, _, _, nothing, _⟩
  · cases rest with
    | done => exact ⟨term, reads, admits_of_isTerm reads admitted, rfl⟩
    | clauses read => exact absurd rfl read.ne_nil
  · cases nothing

/-- A term without `-` may be given one. -/
theorem IsTerm.sign {token : List Char} {term : Term} (reads : IsTerm token term)
    (unsigned : token.head? ≠ some '-') :
    term.negated = false ∧ IsTerm ('-' :: token) { term with negated := true } := by
  cases reads with
  | plain keyed valued first _ => exact ⟨rfl, .negated keyed valued first⟩
  | negated => exact absurd rfl unsigned

theorem Mode.Admits.sign [Wildcard.Compiler] {term : Term} (admitted : mode.Admits term) :
    mode.Admits { term with negated := true } := admitted

theorem words_sign {token : String} (single : Text.words token.toList = [token.toList]) :
    Text.words ("-" ++ token).toList = ['-' :: token.toList] := by
  obtain ⟨-, solid⟩ := Text.solid_of_mem_words (single ▸ List.mem_cons_self)
  have signed : ∀ c ∈ '-' :: token.toList, Text.isBlank c = false :=
    List.forall_mem_cons.mpr ⟨by decide, solid⟩
  rw [String.toList_append]
  exact Text.words_of_solid (List.cons_ne_nil '-' token.toList) signed

theorem words_not (token : String) :
    Text.words ("NOT " ++ token).toList = "NOT".toList :: Text.words token.toList := by
  rw [String.toList_append]
  exact Text.words_append_of_isBlank rfl "NOT".toList token.toList

theorem exists_parse_sign [Wildcard.Compiler] {token : String} {query : Option Node}
    (single : Text.words token.toList = [token.toList]) (unsigned : token.toList.head? ≠ some '-')
    (read : parse mode token = .ok query) :
    ∃ signed, parse mode ("-" ++ token) = .ok signed ∧ Inverts signed query := by
  obtain ⟨term, reads, admitted, rfl⟩ := exists_isTerm_of_parse single read
  obtain ⟨plain, signedReads⟩ := reads.sign unsigned
  refine ⟨some (.term { term with negated := true }), parse_eq_ok_iff.mpr ?_, ?_⟩
  · rw [words_sign single]
    exact ⟨.clause (.term signedReads), admitsAll_of_isTerm signedReads admitted.sign⟩
  · intro summary
    obtain ⟨key, value, negated⟩ := term
    cases plain
    exact Term.accepts_negated key value summary

theorem exists_parse_not [Wildcard.Compiler] {token : String} {query : Option Node}
    (single : Text.words token.toList = [token.toList]) (unsigned : token.toList.head? ≠ some '-')
    (read : parse mode token = .ok query) :
    ∃ inverse, parse mode ("NOT " ++ token) = .ok inverse ∧ Inverts inverse query := by
  obtain ⟨term, reads, admitted, rfl⟩ := exists_isTerm_of_parse single read
  have spells : Spells "not" "NOT".toList := by decide
  refine ⟨some (.not (.term term)), parse_eq_ok_iff.mpr ?_, ?_⟩
  · rw [words_not, single]
    exact ⟨.clause (.not spells reads (reads.sign unsigned).1),
      (admitsAll_word_iff (by decide) spells _).mpr (admitsAll_of_isTerm reads admitted)⟩
  · intro summary
    simp [accepts, Node.accepts]

/-- Two accepted queries put one after the other are accepted and accept what both accept, so
to filter by them is to filter by one and then by the other; `AND` may stand between them if
neither is blank.  A term without `-` may be negated by `-` or by `NOT`, with one meaning. -/
theorem composition_of_queries [Wildcard.Compiler] (mode : Mode) :
    (∀ left right first second, parse mode left = .ok first → parse mode right = .ok second →
      (∃ both, parse mode (left ++ " " ++ right) = .ok both ∧ Conjoins both first second ∧
        ∀ summaries : List Summary,
          summaries.filter (accepts both) =
            (summaries.filter (accepts first)).filter (accepts second) ∧
          summaries.filter (accepts both) =
            (summaries.filter (accepts second)).filter (accepts first)) ∧
      (Text.words left.toList ≠ [] → Text.words right.toList ≠ [] →
        ∃ both, parse mode (left ++ " AND " ++ right) = .ok both ∧ Conjoins both first second)) ∧
    ∀ token query, Text.words token.toList = [token.toList] → token.toList.head? ≠ some '-' →
      parse mode token = .ok query →
        (∃ signed, parse mode ("-" ++ token) = .ok signed ∧ Inverts signed query) ∧
        ∃ inverse, parse mode ("NOT " ++ token) = .ok inverse ∧ Inverts inverse query := by
  constructor
  · intro left right first second readsLeft readsRight
    obtain ⟨both, read, conjoins⟩ := exists_parse_append_space readsLeft readsRight
    exact ⟨⟨both, read, conjoins, fun summaries =>
      ⟨conjoins.filter summaries, conjoins.symm.filter summaries⟩⟩,
      exists_parse_append_and readsLeft readsRight⟩
  · intro token query single unsigned read
    exact ⟨exists_parse_sign single unsigned read, exists_parse_not single unsigned read⟩

section

attribute [local instance] Wildcard.Compiler.bounded

theorem composition_of_queries_recipes :
    let wild := "NOT tag:pre*"
    let kind := "type:recipe"
    parse .strict wild = .ok (some (.not (.term ⟨"tag", "pre*", false⟩))) ∧
      parse .strict kind = .ok (some (.term ⟨"type", "recipe", false⟩)) ∧
      (∃ both, parse .strict (wild ++ " " ++ kind) = .ok both ∧
        Conjoins both (some (.not (.term ⟨"tag", "pre*", false⟩)))
          (some (.term ⟨"type", "recipe", false⟩))) ∧
      (∃ both, parse .strict (wild ++ " AND " ++ kind) = .ok both ∧
        Conjoins both (some (.not (.term ⟨"tag", "pre*", false⟩)))
          (some (.term ⟨"type", "recipe", false⟩))) ∧
      ∃ signed, parse .strict ("-" ++ kind) = .ok signed ∧
        Inverts signed (some (.term ⟨"type", "recipe", false⟩)) := by
  intro wild kind
  have tag : IsTerm "tag:pre*".toList ⟨"tag", "pre*", false⟩ :=
    isTerm_iff.mpr ⟨false, "tag".toList, "pre*".toList, by decide, by decide⟩
  have type : IsTerm "type:recipe".toList ⟨"type", "recipe", false⟩ :=
    isTerm_iff.mpr ⟨false, "type".toList, "recipe".toList, by decide, by decide⟩
  have not : Spells "not" "NOT".toList := by decide
  have wildWords : Text.words wild.toList = ["NOT".toList, "tag:pre*".toList] := by decide
  have kindWords : Text.words kind.toList = [kind.toList] := by decide
  have readsWild : parse .strict wild = .ok (some (.not (.term ⟨"tag", "pre*", false⟩))) := by
    rw [parse_eq_ok_iff, wildWords, admitsAll_word_iff (by decide) not]
    exact ⟨.clause (.not not tag rfl), admitsAll_of_isTerm tag (by decide)⟩
  have readsKind : parse .strict kind = .ok (some (.term ⟨"type", "recipe", false⟩)) := by
    rw [parse_eq_ok_iff, kindWords]
    exact ⟨.clause (.term type), admitsAll_of_isTerm type (by decide)⟩
  obtain ⟨compose, negate⟩ := composition_of_queries .strict
  obtain ⟨⟨both, read, conjoins, -⟩, withAnd⟩ := compose wild kind _ _ readsWild readsKind
  exact ⟨readsWild, readsKind, ⟨both, read, conjoins⟩,
    withAnd (by rw [wildWords]; decide) (by rw [kindWords]; decide),
    (negate kind _ kindWords (by decide) readsKind).1⟩

end

end Guidebook.Query
