import Guidebook.Query.Term

/-!
# Query trees

A query is a tree of terms, conjunctions and negations; no query at all accepts
every summary.  The queries that are read from a text have at most one
conjunction, at the root.
-/

namespace Guidebook.Query

/-- A query tree. -/
inductive Node where
  | term (leaf : Term)
  | and (children : List Node)
  | not (child : Node)
  deriving Repr, Inhabited

namespace Node

mutual

/-- The query accepts a summary. -/
def accepts (summary : Summary) : Node → Bool
  | .term leaf => leaf.accepts summary
  | .and children => acceptsAll summary children
  | .not child => !accepts summary child

/-- Every query of a list accepts a summary. -/
def acceptsAll (summary : Summary) : List Node → Bool
  | [] => true
  | child :: rest => accepts summary child && acceptsAll summary rest

end

mutual

/-- The written form of a query. -/
def text : Node → String
  | .term leaf => leaf.text
  | .and children => "(" ++ String.intercalate " AND " (texts children) ++ ")"
  | .not child => "NOT " ++ text child

/-- The written forms of a list of queries. -/
def texts : List Node → List String
  | [] => []
  | child :: rest => text child :: texts rest

end

mutual

/-- Equality of two queries. -/
def same : Node → Node → Bool
  | .term left, .term right => left == right
  | .and left, .and right => sameAll left right
  | .not left, .not right => same left right
  | _, _ => false

/-- Equality of two lists of queries. -/
def sameAll : List Node → List Node → Bool
  | [], [] => true
  | left :: lefts, right :: rights => same left right && sameAll lefts rights
  | _, _ => false

end

instance : BEq Node := ⟨same⟩

end Node

/-- An optional query accepts a summary. -/
def accepts (query : Option Node) (summary : Summary) : Bool :=
  query.all (·.accepts summary)

/-- The ids of the summaries that an optional query accepts, in order. -/
def selectIds (query : Option Node) (summaries : List Summary) : List String :=
  (summaries.filter (accepts query)).map (·.id)

end Guidebook.Query
