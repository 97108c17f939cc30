import Guidebook.Yaml.Cursor

/-!
# Plain scalars

A plain scalar is a sequence of words.  It ends before a `: `, before a comment,
before a mark of a document, and at a line that is indented less than its
surroundings; in a flow collection it also ends before the signs of the
collection.
-/

namespace Guidebook.Yaml.Plain

/-- A sign that separates or closes the parts of a flow collection. -/
def isFlowSign (c : Char) : Bool :=
  c == ',' || c == '[' || c == ']' || c == '\x7b' || c == '\x7d'

/-- The characters of a word of a scalar.  In a flow collection a colon before a
sign is refused. -/
def word? (inFlow : Bool) : List Char → Option (List Char)
  | [] => some []
  | c :: rest =>
      if !isSolid c then some []
      else if inFlow && c == ':' && rest.head?.any (fun d => isFlowSign d || d == '?') then none
      else if c == ':' && endsWord rest then some []
      else if inFlow && isFlowSign c then some []
      else (word? inFlow rest).map (c :: ·)

/-- Read a scalar, put after `read`, which is given backwards.  The scalar stands
in columns from `margin` on.  Also tells whether a line break was read after its
last word. -/
def read (inFlow : Bool) (margin : Nat) : (fuel : Nat) → (read : List Char) → Gap → Cursor →
    Option (List Char × Bool × Cursor)
  | 0, _, _, _ => none
  | fuel + 1, done, gap, cursor =>
      if cursor.isAtDocumentMark || cursor.rest.head? == some '#' then
        some (done.reverse, gap.hasBreak, cursor)
      else do
        let word ← word? inFlow cursor.rest
        if word.isEmpty then return (done.reverse, gap.hasBreak, cursor)
        let done := word.reverse ++ (gap.text.reverse ++ done)
        let cursor := cursor.skip word.length
        let (gap, next) ← readGap margin false cursor.rest.length {} cursor
        if next.index = cursor.index then return (done.reverse, false, cursor)
        if !inFlow && next.column < margin then return (done.reverse, gap.hasBreak, next)
        read inFlow margin fuel done gap next

end Guidebook.Yaml.Plain
