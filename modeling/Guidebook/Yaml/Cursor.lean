/-!
# A place in a YAML text

A cursor is the rest of a text with the place where it starts: how many
characters and how many lines are before it, and its column.  The line breaks are
the line feed, the carriage return, the two together, the next-line character and
the two separators of Unicode; of a text they are read as line feeds, but for the
two separators, which stay.
-/

namespace Guidebook.Yaml

/-- A space or a tab. -/
def isGap (c : Char) : Bool := c == ' ' || c == '\t'

/-- A character that starts a line break. -/
def isBreak (c : Char) : Bool :=
  c == '\n' || c == '\r' || c == '\x85' || c == '\u2028' || c == '\u2029'

/-- Neither a space nor a part of a line break. -/
def isSolid (c : Char) : Bool := !isGap c && !isBreak c

/-- A character that names consist of. -/
def isNameChar (c : Char) : Bool := c.isAlphanum || c == '_' || c == '-'

/-- A character that a YAML text may hold. -/
def isAllowed (c : Char) : Bool :=
  let code := c.val
  code == 9 || code == 10 || code == 13 || (0x20 ≤ code && code ≤ 0x7E) || code == 0x85 ||
    (0xA0 ≤ code && code ≤ 0xD7FF) || (0xE000 ≤ code && code ≤ 0xFFFD) || 0x10000 ≤ code

/-- The text ends here, or a space or a line break follows. -/
def endsWord : List Char → Bool
  | [] => true
  | c :: _ => !isSolid c

/-- The text ends here, or a line break follows. -/
def endsLine : List Char → Bool
  | [] => true
  | c :: _ => isBreak c

/-- A place in a text: what comes after it, and where it is. -/
structure Cursor where
  rest : List Char
  index : Nat := 0
  line : Nat := 0
  column : Nat := 0
  deriving Repr, Inhabited

namespace Cursor

/-- The place some characters of the same line later. -/
def skip (cursor : Cursor) (count : Nat) : Cursor :=
  { cursor with
    rest := cursor.rest.drop count
    index := cursor.index + count
    column := cursor.column + count }

/-- The place after the characters that satisfy a predicate. -/
def skipWhile (cursor : Cursor) (keep : Char → Bool) : Cursor :=
  cursor.skip (cursor.rest.takeWhile keep).length

/-- The place at the start of the next line. -/
def nextLine (cursor : Cursor) (width : Nat) : Cursor where
  rest := cursor.rest.drop width
  index := cursor.index + width
  line := cursor.line + 1
  column := 0

/-- The character as which a line break is read, and the place after it. -/
def takeBreak? (cursor : Cursor) : Option (Char × Cursor) :=
  match cursor.rest with
  | '\r' :: '\n' :: _ => some ('\n', cursor.nextLine 2)
  | '\r' :: _ | '\n' :: _ | '\x85' :: _ => some ('\n', cursor.nextLine 1)
  | '\u2028' :: _ => some ('\u2028', cursor.nextLine 1)
  | '\u2029' :: _ => some ('\u2029', cursor.nextLine 1)
  | _ => none

/-- The place after a line break, or the same place where there is none. -/
def skipBreak (cursor : Cursor) : Cursor :=
  match cursor.takeBreak? with
  | some (_, next) => next
  | none => cursor

/-- The place after the spaces and the comment at the end of a line, when there is
nothing else up to the end of the line. -/
def skipLineEnd? (cursor : Cursor) : Option Cursor :=
  let cursor := cursor.skipWhile isGap
  let cursor :=
    if cursor.rest.head? = some '#' then cursor.skipWhile (!isBreak ·) else cursor
  if endsLine cursor.rest then some cursor.skipBreak else none

/-- A line starts here with three given characters and the end of a word. -/
def isAtMark (cursor : Cursor) (mark : Char) : Bool :=
  cursor.column == 0 &&
    match cursor.rest with
    | a :: b :: c :: rest => a == mark && b == mark && c == mark && endsWord rest
    | _ => false

/-- The start or the end of a document is marked here. -/
def isAtDocumentMark (cursor : Cursor) : Bool :=
  cursor.isAtMark '-' || cursor.isAtMark '.'

end Cursor

/-- What stands between two words of a scalar: spaces, or line breaks with the
spaces around them left out. -/
structure Gap where
  spaces : List Char := []
  breaks : List Char := []
  deriving Repr, Inhabited

namespace Gap

/-- The gap holds a line break. -/
def hasBreak (gap : Gap) : Bool := !gap.breaks.isEmpty

/-- The text as which a gap is read: a single line break is a space, and of
several the first is left out. -/
def text (gap : Gap) : List Char :=
  match gap.breaks with
  | [] => gap.spaces
  | ['\n'] => [' ']
  | '\n' :: breaks => breaks
  | breaks => breaks

end Gap

/-- Read a gap.  After a line break, a tab in a column before `margin` is
refused. -/
def readGap (margin : Nat) (afterBreak : Bool) :
    (fuel : Nat) → Gap → Cursor → Option (Gap × Cursor)
  | 0, gap, cursor => some (gap, cursor)
  | fuel + 1, gap, cursor =>
      match cursor.rest with
      | [] => some (gap, cursor)
      | c :: _ =>
          if isGap c then
            if afterBreak then
              if c = '\t' ∧ cursor.column < margin then none
              else readGap margin true fuel gap (cursor.skip 1)
            else
              readGap margin false fuel { gap with spaces := gap.spaces ++ [c] } (cursor.skip 1)
          else
            match cursor.takeBreak? with
            | none => some (gap, cursor)
            | some (c, next) =>
                readGap margin true fuel ⟨[], gap.breaks ++ [c]⟩ next

end Guidebook.Yaml
