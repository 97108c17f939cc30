import Guidebook.Yaml.Cursor

/-!
# Block scalars

A block scalar holds the lines below its header that are indented enough.  The
header says whether line breaks are kept or folded, what becomes of the line
breaks at the end, and, if the first line does not show it, the indentation.
-/

namespace Guidebook.Yaml.Block

/-- What becomes of the line breaks at the end of a scalar. -/
inductive Chomping where
  | strip
  | clip
  | keep
  deriving DecidableEq, Repr

/-- The header of a block scalar after its first character. -/
structure Header where
  chomping : Chomping := .clip
  /-- The indentation relative to the surroundings, when it is given. -/
  increment : Option Nat := none

/-- The chomping that a character stands for. -/
def chomping? : Char → Option Chomping
  | '+' => some .keep
  | '-' => some .strip
  | _ => none

/-- The chomping at a place, and the place after it. -/
def takeChomping (cursor : Cursor) : Option Chomping × Cursor :=
  match cursor.rest.head?.bind chomping? with
  | some chomping => (some chomping, cursor.skip 1)
  | none => (none, cursor)

/-- The indentation at a place, and the place after it; a zero is refused. -/
def takeIncrement? (cursor : Cursor) : Option (Option Nat × Cursor) :=
  match cursor.rest with
  | c :: _ =>
      if c = '0' then none
      else if c.isDigit then some (some (c.toNat - 48), cursor.skip 1)
      else some (none, cursor)
  | [] => some (none, cursor)

/-- The header at a place, in either order of its parts, and the place of the next
line. -/
def header? (cursor : Cursor) : Option (Header × Cursor) := do
  let (first, cursor) := takeChomping cursor
  let (increment, cursor) ← takeIncrement? cursor
  let (second, cursor) :=
    if first.isNone && increment.isSome then takeChomping cursor else (none, cursor)
  let cursor ← cursor.skipLineEnd?
  return (⟨(first.or second).getD .clip, increment⟩, cursor)

/-- Empty lines before a line of a scalar: their line breaks, and the greatest
column that their spaces reach. -/
structure Lead where
  breaks : List Char := []
  reach : Nat := 0

/-- Read empty lines and the indentation after them.  Without an indentation all
spaces are read.  A tab within the indentation is refused. -/
def readLead (indentation : Option Nat) : (fuel : Nat) → Lead → Cursor → Option (Lead × Cursor)
  | 0, lead, cursor => some (lead, cursor)
  | fuel + 1, lead, cursor =>
      let spaces := (cursor.rest.takeWhile (· == ' ')).length
      let spaces :=
        match indentation with
        | some indentation => min spaces (indentation - cursor.column)
        | none => spaces
      let cursor := cursor.skip spaces
      let lead := { lead with reach := max lead.reach cursor.column }
      if cursor.rest.head? = some '\t' ∧ indentation.all (cursor.column < ·) then none
      else
        match cursor.takeBreak? with
        | none => some (lead, cursor)
        | some (c, next) =>
            readLead indentation fuel { lead with breaks := lead.breaks ++ [c] } next

/-- The text between two lines: the line break after the first and the empty lines
before the second.  Folding makes a single line break a space, unless one of the
lines starts with a space. -/
def joint (folded : Bool) (spaced : Bool) (lineBreak breaks : List Char) : List Char :=
  if folded && lineBreak == ['\n'] && !spaced then
    if breaks.isEmpty then [' '] else breaks
  else lineBreak ++ breaks

/-- Read the lines of a scalar, put after `done`, which is given backwards.
`lineBreak` and `breaks` stand between what is read and the next line, and
`spacedBefore` tells whether the line before starts with a space. -/
def readLines (folded : Bool) (chomping : Chomping) (indentation : Nat) :
    (fuel : Nat) → (done : List Char) → (lineBreak breaks : List Char) →
    (spacedBefore : Bool) → Cursor → Option (List Char × Cursor)
  | 0, _, _, _, _, _ => none
  | fuel + 1, done, lineBreak, breaks, spacedBefore, cursor =>
      if cursor.column = indentation ∧ !cursor.rest.isEmpty then do
        let spaced := cursor.rest.head?.any isGap
        let joined := joint folded (spacedBefore || spaced) lineBreak breaks
        let line := cursor.rest.takeWhile (!isBreak ·)
        let cursor := cursor.skip line.length
        let (lineBreak, cursor) :=
          match cursor.takeBreak? with
          | some (c, next) => ([c], next)
          | none => ([], cursor)
        let (lead, cursor) ←
          readLead (some indentation) (cursor.rest.length + 1) {} cursor
        readLines folded chomping indentation fuel
          (line.reverse ++ (joined.reverse ++ done)) lineBreak lead.breaks spaced cursor
      else
        let ending :=
          match chomping with
          | .strip => []
          | .clip => lineBreak
          | .keep => lineBreak ++ breaks
        some (done.reverse ++ ending, cursor)

/-- Read a scalar after its first character.  Its lines stand in columns from
`margin` on; without a given indentation, the first line that is not empty, or
the longest before it, shows it. -/
def read (folded : Bool) (margin : Nat) (cursor : Cursor) : Option (List Char × Cursor) := do
  let (header, cursor) ← header? cursor
  let given := header.increment.map (margin - 1 + ·)
  let (lead, cursor) ← readLead given (cursor.rest.length + 1) {} cursor
  let indentation := given.getD (max lead.reach (max margin 1))
  readLines folded header.chomping indentation (cursor.rest.length + 1) [] [] lead.breaks
    false cursor

end Guidebook.Yaml.Block
