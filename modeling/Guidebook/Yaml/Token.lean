/-!
# YAML tokens

The tokens of a YAML text.  Blocks are opened and closed by tokens of their own,
which stand for changes of the indentation.
-/

namespace Guidebook.Yaml

/-- How a scalar is written. -/
inductive Style where
  | plain
  | quoted
  /-- A block scalar that keeps its line breaks. -/
  | literal
  /-- A block scalar that folds its line breaks. -/
  | folded
  deriving DecidableEq, Repr, Inhabited

/-- A token. -/
inductive Token where
  | version (major minor : Nat)
  | tagHandle (handle expansion : String)
  | documentStart
  | documentEnd
  | blockSequence
  | blockMapping
  | blockEnd
  | flowSequence
  | flowSequenceEnd
  | flowMapping
  | flowMappingEnd
  | blockEntry
  | flowEntry
  | key
  | value
  | alias (name : String)
  | anchor (name : String)
  | tag (handle suffix : String)
  | scalar (text : String) (style : Style)
  deriving DecidableEq, Repr, Inhabited

end Guidebook.Yaml
