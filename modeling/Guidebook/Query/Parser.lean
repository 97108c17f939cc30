import Guidebook.Query.Node
import Guidebook.Text.Split

/-!
# Reading a query

A query is a sequence of clauses: a term, or `NOT` and a term without `-`.  `AND`
may stand between two clauses; it changes nothing.  A term is `key:value`, cut at
its first colon, both parts with something in them, and may have one `-` in
front.  A query that is read strictly has recognised keys only.
-/

namespace Guidebook.Query

/-- How the unknown keys of a query are treated. -/
inductive Mode where
  /-- They are read, and accept no summary. -/
  | lenient
  /-- They are refused. -/
  | strict
  deriving DecidableEq, Repr

/-- What a query lacks at the token where it goes wrong. -/
inductive Expected where
  | termOrNot
  | termAfterAnd
  | termAfterNot
  | plainTermAfterNot
  | wellFormedTerm
  | operatorOrTerm
  deriving DecidableEq, Repr

/-- The wording of what a query lacks. -/
def Expected.text : Expected → String
  | .termOrNot => "a term or NOT"
  | .termAfterAnd => "a term after 'AND'"
  | .termAfterNot => "a term after 'NOT'"
  | .plainTermAfterNot => "a term without '-' after 'NOT'"
  | .wellFormedTerm => "a term of the form key:value or key:*"
  | .operatorOrTerm => "'AND', 'NOT', or a key:value term"

/-- The error of a token that stands where something else is expected. -/
def syntaxError (token : List Char) (position : Nat) (expected : Expected) : Error :=
  .filterSyntax (String.ofList token) position expected.text

/-- The token is the word `AND`, in any case of its letters. -/
def isAnd (token : List Char) : Bool := Text.eqAsciiFold token ['A', 'N', 'D']

/-- The token is the word `NOT`, in any case of its letters. -/
def isNot (token : List Char) : Bool := Text.eqAsciiFold token ['N', 'O', 'T']

/-- The sign, the key and the value of a token that has the form of a term. -/
def termParts? (token : List Char) : Option (Bool × List Char × List Char) :=
  let (negated, body) :=
    match token with
    | '-' :: rest => (true, rest)
    | token => (false, token)
  match Text.cutAt? ':' body with
  | some (key, value) =>
      if key.isEmpty || value.isEmpty then none else some (negated, key, value)
  | none => none

variable [Wildcard.Compiler]

/-- Read a token as a term; `expected` words the error of a token that has not the
form of one. -/
def readTerm (mode : Mode) (token : List Char) (position : Nat) (expected : Expected) :
    Except Error Term :=
  match termParts? token with
  | none => .error (syntaxError token position expected)
  | some (negated, key, value) => do
      let term ← Term.make (String.ofList key) (String.ofList value) negated
      if mode = .strict ∧ !term.isRecognized then throw (.unknownFilterKey term.key)
      return term

/-- Read the clauses of the tokens from `position` on.  At the start of a query
and after `AND` a clause has to follow, and `AND` is refused. -/
def readClauses (mode : Mode) :
    (clauseRequired : Bool) → (position : Nat) → List (List Char) → Except Error (List Node)
  | _, _, [] => .ok []
  | clauseRequired, position, token :: rest =>
      if isAnd token then
        if clauseRequired then .error (syntaxError token position .termOrNot)
        else if rest.isEmpty then .error (syntaxError token position .termAfterAnd)
        else readClauses mode true (position + 1) rest
      else if isNot token then
        match rest with
        | [] => .error (syntaxError token position .termAfterNot)
        | next :: rest => do
            let term ← readTerm mode next (position + 1) .wellFormedTerm
            if term.negated then
              throw (syntaxError next (position + 1) .plainTermAfterNot)
            let clauses ← readClauses mode false (position + 2) rest
            return .not (.term term) :: clauses
      else do
        let expected := if clauseRequired then Expected.wellFormedTerm else .operatorOrTerm
        let term ← readTerm mode token position expected
        let clauses ← readClauses mode false (position + 1) rest
        return .term term :: clauses

/-- The query with the given clauses: none, the only clause, or a conjunction. -/
def ofClauses : List Node → Option Node
  | [] => none
  | [clause] => some clause
  | clauses => some (.and clauses)

/-- Read a query; a blank text is no query. -/
def parse (mode : Mode) (text : String) : Except Error (Option Node) :=
  (readClauses mode true 0 (Text.words text.toList)).map ofClauses

end Guidebook.Query
