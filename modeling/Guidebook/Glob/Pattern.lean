/-!
# Glob patterns

A pattern is a sequence of items: a character, `?` for any character, `*` for any
run of characters, a class in brackets, and `**` as a whole component of a path
for any number of directories.  A `!` after the opening bracket negates a class;
a `]` is in a class when it stands first, and two characters with `-` between
them are a range.  Reading a pattern fails at a position of its text.
-/

namespace Guidebook.Glob

/-- A range of characters that a class holds. -/
structure Range where
  first : Char
  last : Char
  deriving DecidableEq, Repr

/-- A part of a pattern. -/
inductive Item where
  | letter (c : Char)
  | anyLetter
  | anyRun
  | anyDirectories
  | within (ranges : List Range)
  | except (ranges : List Range)
  deriving DecidableEq, Repr

/-- What is wrong with a pattern. -/
inductive Mistake where
  | wildcards
  | recursion
  | range
  deriving DecidableEq, Repr

/-- A mistake and its position in the text of the pattern. -/
structure PatternError where
  position : Nat
  mistake : Mistake
  deriving DecidableEq, Repr

/-- The wording of a mistake. -/
def Mistake.text : Mistake → String
  | .wildcards => "wildcards are either regular \x60*\x60 or recursive \x60**\x60"
  | .recursion => "recursive wildcards must form a single path component"
  | .range => "invalid range pattern"

/-- The wording of an error. -/
def PatternError.message (error : PatternError) : String :=
  s!"Pattern syntax error near position {error.position}: {error.mistake.text}"

/-- The ranges of the text of a class. -/
def ranges : List Char → List Range
  | first :: '-' :: last :: rest => ⟨first, last⟩ :: ranges rest
  | c :: rest => ⟨c, c⟩ :: ranges rest
  | [] => []

/-- Some range holds the character. -/
def holds (ranges : List Range) (c : Char) : Bool :=
  ranges.any fun range => range.first ≤ c && c ≤ range.last

/-- Cut a text at its first `]`, which neither part keeps, and which is not looked
for in the first character. -/
def cutClass? : List Char → Option (List Char × List Char)
  | [] => none
  | first :: rest =>
      match rest.span (· != ']') with
      | (inner, _ :: after) => some (first :: inner, after)
      | (_, []) => none

/-- The class after an opening bracket, and the text after the class. -/
def readClass? : List Char → Option (Item × List Char)
  | '!' :: rest => (cutClass? rest).map fun (inner, after) => (.except (ranges inner), after)
  | rest => (cutClass? rest).map fun (inner, after) => (.within (ranges inner), after)

/-- Read the items of a pattern from `position` on; `atStart` says whether a
component starts there. -/
def readItems : (fuel : Nat) → (position : Nat) → (atStart : Bool) → List Char →
    Except PatternError (List Item)
  | 0, _, _, _ => .ok []
  | _ + 1, _, _, [] => .ok []
  | fuel + 1, position, atStart, '*' :: rest =>
      match rest with
      | '*' :: '*' :: _ => .error ⟨position + 2, .wildcards⟩
      | '*' :: rest =>
          if !atStart then .error ⟨position - 1, .recursion⟩
          else
            match rest with
            | [] => .ok [.anyDirectories]
            | '/' :: rest => do
                let items ← readItems fuel (position + 3) true rest
                return .anyDirectories :: items
            | _ => .error ⟨position + 2, .recursion⟩
      | rest => do
          let items ← readItems fuel (position + 1) false rest
          return .anyRun :: items
  | fuel + 1, position, _, '[' :: rest =>
      match readClass? rest with
      | none => .error ⟨position, .range⟩
      | some (item, after) => do
          let width := rest.length - after.length + 1
          let items ← readItems fuel (position + width) false after
          return item :: items
  | fuel + 1, position, _, c :: rest => do
      let items ← readItems fuel (position + 1) (c == '/') rest
      return (if c = '?' then .anyLetter else .letter c) :: items

/-- Read the items of a pattern. -/
def parseItems (text : String) : Except PatternError (List Item) :=
  let text := text.toList
  readItems (text.length + 1) 0 true text

/-- A pattern that stands for the text itself: what has a meaning in a pattern
becomes a class of its own. -/
def escape (text : String) : String :=
  String.ofList <| text.toList.flatMap fun c =>
    if c == '?' || c == '*' || c == '[' || c == ']' then ['[', c, ']'] else [c]

/-- The item stands for one character, and for this one. -/
def Item.accepts : Item → Char → Bool
  | .letter wanted, c => wanted == c
  | .anyLetter, _ => true
  | .within ranges, c => holds ranges c
  | .except ranges, c => !holds ranges c
  | .anyRun, _ | .anyDirectories, _ => false

/-- For every tail of a text, longest first, whether it matches what comes next
after some run of characters. -/
def anyRunRow : (next : List Bool) → List Bool
  | [] => []
  | here :: rest =>
      let row := anyRunRow rest
      (here || row.headD false) :: row

/-- For every tail of `text`, longest first, whether it matches the items. -/
def row (text : List Char) : List Item → List Bool
  | [] => List.replicate text.length false ++ [true]
  | .anyRun :: items | .anyDirectories :: items => anyRunRow (row text items)
  | item :: items =>
      List.zipWith (fun c matchesAfter => item.accepts c && matchesAfter) text
        ((row text items).drop 1) ++ [false]

/-- The whole name matches the items. -/
def isMatch (items : List Item) (name : String) : Bool :=
  (row name.toList items).headD false

/-- The text for which a pattern stands that stands for one text only. -/
def literal? : List Item → Option (List Char)
  | [] => some []
  | .letter c :: items => (literal? items).map (c :: ·)
  | _ :: _ => none

end Guidebook.Glob
