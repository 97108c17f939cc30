import Guidebook.Proofs.Composition
import Guidebook.Proofs.SmallLetters

/-!
# Queries in print

A query is printed with its keys in lower case.  This module shows that each clause of
a query is printed as words that form the clause again, and that the printed clauses,
one after the other with spaces or with `AND` between them, are read as the query.
-/

namespace Guidebook.Query

/-- The clauses of a query: the parts of a conjunction, or the query itself. -/
def Node.clauses : Node → List Node
  | .and children => children
  | node => [node]

/-! ## Terms and clauses -/

section

variable {token : List Char} {term : Term}

theorem Term.toList_text (key value : List Char) (negated : Bool) :
    (Term.text ⟨String.ofList key, String.ofList value, negated⟩).toList =
      (if negated then ['-'] else []) ++ (key ++ ':' :: value) := by
  cases negated <;> simp [Term.text]

/-- A term is printed in the form that it is read in. -/
theorem IsTerm.text (reads : IsTerm token term) : IsTerm term.text.toList term := by
  have unkeyed {key : List Char} (first : ':' ∉ key) : ':' ∉ Text.lower key :=
    fun member => first (Text.mem_of_mem_lower member (by decide))
  cases reads with
  | @plain key value keyed valued first unsigned =>
      have bare : (Text.lower key).head? ≠ some '-' := by
        intro signed
        exact unsigned (Text.head?_of_head?_lower signed (by decide))
      have again := IsTerm.plain (Text.lower_ne_nil keyed) valued (unkeyed first) bare
      rw [Text.lower_lower] at again
      rw [Term.toList_text]
      exact again
  | @negated key value keyed valued first =>
      have again := IsTerm.negated (Text.lower_ne_nil keyed) valued (unkeyed first)
      rw [Text.lower_lower] at again
      rw [Term.toList_text]
      exact again

theorem IsTerm.ne_nil (reads : IsTerm token term) : token ≠ [] := by
  cases reads <;> simp

/-- No blank comes into a term when it is printed. -/
theorem IsTerm.text_solid (reads : IsTerm token term)
    (solid : ∀ c ∈ token, Text.isBlank c = false) :
    ∀ c ∈ term.text.toList, Text.isBlank c = false := by
  intro c member
  rw [Bool.eq_false_iff]
  intro blank
  have own {key : List Char} (among : c ∈ Text.lower key) : c ∈ key :=
    Text.mem_of_mem_lower among fun _ => blank
  have among : c ∈ token := by
    cases reads with
    | plain =>
        rw [Term.toList_text] at member
        simp only [Bool.false_eq_true, if_false, List.nil_append, List.mem_append] at member ⊢
        exact member.imp_left own
    | negated =>
        rw [Term.toList_text] at member
        simp only [if_true, List.cons_append, List.nil_append, List.mem_cons,
          List.mem_append] at member ⊢
        exact member.imp_right (Or.imp_left own)
  rw [solid c among] at blank
  cases blank

theorem IsTerm.words_text (reads : IsTerm token term)
    (solid : ∀ c ∈ token, Text.isBlank c = false) :
    Text.words term.text.toList = [term.text.toList] :=
  Text.words_of_solid reads.text.ne_nil (reads.text_solid solid)

end

section

variable [Wildcard.Compiler]

/-- A text whose words are clauses of a query that a mode accepts. -/
structure Prints (mode : Mode) (text : String) (clauses : List Node) : Prop where
  forms : AreClauses (Text.words text.toList) clauses
  admitted : mode.AdmitsAll (Text.words text.toList)

theorem IsClause.prints {mode : Mode} {tokens : List (List Char)} {clause : Node}
    (reads : IsClause tokens clause) (admitted : mode.AdmitsAll tokens)
    (solid : ∀ token ∈ tokens, ∀ c ∈ token, Text.isBlank c = false) :
    Prints mode clause.text [clause] := by
  cases reads with
  | @term token term reads =>
      have words := reads.words_text (solid token List.mem_cons_self)
      refine ⟨?_, ?_⟩
      · rw [Node.text, words]
        exact .last (.term reads.text)
      · rw [Node.text, words]
        exact admitsAll_of_isTerm reads.text (admits_of_isTerm reads admitted)
  | @not word token term spells reads plain =>
      have words := reads.words_text (solid token (by simp))
      have own := (admitsAll_word_iff (by decide) spells [token]).mp admitted
      have not : Spells "not" "NOT".toList := by decide
      refine ⟨?_, ?_⟩
      · rw [Node.text, Node.text, words_not, words]
        exact .last (.not not reads.text plain)
      · rw [Node.text, Node.text, words_not, words, admitsAll_word_iff (by decide) not]
        exact admitsAll_of_isTerm reads.text (admits_of_isTerm reads own)

/-- Each clause of a query is printed as words that form it. -/
theorem AreClauses.prints {mode : Mode} {tokens : List (List Char)} {clauses : List Node}
    (read : AreClauses tokens clauses) (admitted : mode.AdmitsAll tokens)
    (solid : ∀ token ∈ tokens, ∀ c ∈ token, Text.isBlank c = false) :
    ∀ clause ∈ clauses, Prints mode clause.text [clause] := by
  induction read with
  | last reads => simpa using reads.prints admitted solid
  | next reads later ih =>
      obtain ⟨own, others⟩ := admitsAll_append_iff.mp admitted
      obtain ⟨ownSolid, othersSolid⟩ := List.forall_mem_append.mp solid
      exact List.forall_mem_cons.mpr ⟨reads.prints own ownSolid, ih others othersSolid⟩
  | and reads spells later ih =>
      obtain ⟨own, others⟩ := admitsAll_append_iff.mp admitted
      obtain ⟨ownSolid, othersSolid⟩ := List.forall_mem_append.mp solid
      exact List.forall_mem_cons.mpr ⟨reads.prints own ownSolid,
        ih (admitsAll_cons_iff.mp others).2 (List.forall_mem_cons.mp othersSolid).2⟩

/-! ## Queries -/

/-- A text that may stand between clauses. -/
def Separates (separator : String) : Prop :=
  ∀ {mode : Mode} {left right : String} {first second : List Node},
    Prints mode left first → Prints mode right second →
      Prints mode (left ++ separator ++ right) (first ++ second)

theorem separates_space : Separates " " := by
  intro mode left right first second before after
  refine ⟨?_, ?_⟩
  · rw [words_append_space]
    exact before.forms.append after.forms
  · rw [words_append_space]
    exact admitsAll_append_iff.mpr ⟨before.admitted, after.admitted⟩

theorem separates_and : Separates " AND " := by
  intro mode left right first second before after
  have spells : Spells "and" "AND".toList := by decide
  refine ⟨?_, ?_⟩
  · rw [words_append_and]
    exact before.forms.append_and spells after.forms
  · rw [words_append_and, admitsAll_append_iff, admitsAll_word_iff (by decide) spells]
    exact ⟨before.admitted, after.admitted⟩

theorem Separates.prints {separator : String} (separates : Separates separator) {mode : Mode}
    {clauses : List Node} (some : clauses ≠ [])
    (printed : ∀ clause ∈ clauses, Prints mode clause.text [clause]) :
    Prints mode (separator.intercalate (clauses.map Node.text)) clauses := by
  induction clauses with
  | nil => exact absurd rfl some
  | cons clause later ih =>
      obtain ⟨own, others⟩ := List.forall_mem_cons.mp printed
      cases later with
      | nil => simpa using own
      | cons next later =>
          rw [List.map_cons, List.map_cons, String.intercalate_cons_cons]
          exact separates own (ih (List.cons_ne_nil next later) others)

theorem Prints.parse {mode : Mode} {text : String} {clauses : List Node}
    (prints : Prints mode text clauses) : parse mode text = .ok (ofClauses clauses) :=
  parse_eq_ok_iff.mpr
    ⟨isQuery_iff.mpr ⟨clauses, .clauses prints.forms, rfl⟩, prints.admitted⟩

end

theorem IsClause.clauses_eq {tokens : List (List Char)} {clause : Node}
    (reads : IsClause tokens clause) : clause.clauses = [clause] := by
  cases reads <;> rfl

/-- The clauses of a query are those that its words form. -/
theorem exists_areClauses_of_parse [Wildcard.Compiler] {mode : Mode} {text : String} {query : Node}
    (read : Query.parse mode text = .ok (some query)) :
    AreClauses (Text.words text.toList) query.clauses ∧ query.clauses ≠ [] ∧
      ofClauses query.clauses = some query := by
  obtain ⟨forms, -⟩ := parse_eq_ok_iff.mp read
  generalize Text.words text.toList = tokens at forms ⊢
  cases forms with
  | clause reads =>
      rw [reads.clauses_eq]
      exact ⟨.last reads, List.cons_ne_nil query [], rfl⟩
  | @conjunction _ clauses areClauses several =>
      match clauses, several with
      | first :: second :: rest, _ => exact ⟨areClauses, List.cons_ne_nil _ _, rfl⟩

/-- The printed clauses of an accepted query, with `AND` or with spaces between them, are read
in the same mode as the same query. -/
theorem parse_printed_clauses [Wildcard.Compiler] {mode : Mode} {text : String} {query : Node}
    (read : parse mode text = .ok (some query)) :
    parse mode (" AND ".intercalate (query.clauses.map Node.text)) = .ok (some query) ∧
      parse mode (" ".intercalate (query.clauses.map Node.text)) = .ok (some query) := by
  obtain ⟨-, admitted⟩ := parse_eq_ok_iff.mp read
  obtain ⟨areClauses, nonempty, whole⟩ := exists_areClauses_of_parse read
  have solid : ∀ token ∈ Text.words text.toList, ∀ c ∈ token, Text.isBlank c = false :=
    fun _ member => (Text.solid_of_mem_words member).2
  have printed := areClauses.prints admitted solid
  rw [← whole]
  exact ⟨(separates_and.prints nonempty printed).parse,
    (separates_space.prints nonempty printed).parse⟩

section

attribute [local instance] Wildcard.Compiler.bounded

theorem parse_printed_clauses_sigma :
    let query : Node := .and
      [.term ⟨"åς", "a:AND", true⟩, .not (.term ⟨"tag", "*", false⟩)]
    parse .lenient " -ÅΣ:a:AND not TAG:*" = .ok (some query) ∧
      parse .lenient "-åς:a:AND AND NOT tag:*" = .ok (some query) ∧
      parse .lenient "-åς:a:AND NOT tag:*" = .ok (some query) := by
  intro query
  have found : Text.words " -ÅΣ:a:AND not TAG:*".toList =
      ["-ÅΣ:a:AND".toList, "not".toList, "TAG:*".toList] := by decide
  have greek : IsTerm "-ÅΣ:a:AND".toList ⟨"åς", "a:AND", true⟩ :=
    isTerm_iff.mpr ⟨true, "ÅΣ".toList, "a:AND".toList, by decide, by decide +kernel⟩
  have tag : IsTerm "TAG:*".toList ⟨"tag", "*", false⟩ :=
    isTerm_iff.mpr ⟨false, "TAG".toList, "*".toList, by decide, by decide⟩
  have not : Spells "not" "not".toList := by decide
  have read : parse .lenient " -ÅΣ:a:AND not TAG:*" = .ok (some query) := by
    rw [parse_eq_ok_iff, found, admitsAll_term_iff greek, admitsAll_word_iff (by decide) not]
    refine ⟨.conjunction ?_ (by decide), by decide, admitsAll_of_isTerm tag (by decide)⟩
    exact .next (.term greek) (.last (.not not tag rfl))
  obtain ⟨withAnd, withSpaces⟩ := parse_printed_clauses read
  simp only [query, Node.clauses, List.map_cons, List.map_nil, Node.text, Term.text,
    String.intercalate_cons_cons, String.intercalate_singleton] at withAnd withSpaces
  exact ⟨read, withAnd, withSpaces⟩

end

end Guidebook.Query
