import Guidebook.Text.Split

/-!
# Paths

A path is a text in which `/` separates the names.  Two paths are the same when
their components are: repeated separators, a `/` at the end and the name `.` add
no component, but for a `.` at the start of a relative path.  A path keeps its
text, and everything that is derived from it keeps the text that it is made of.
-/

namespace Guidebook

/-- A path as it is written. -/
structure Path where
  text : String
  deriving DecidableEq, Repr, Inhabited

namespace Path

/-- One step of a path. -/
inductive Component where
  | root
  | current
  | parent
  | name (text : String)
  deriving DecidableEq, Repr

namespace Component

/-- The place of the forms of a component among each other. -/
def rank : Component → Nat
  | .root => 0
  | .current => 1
  | .parent => 2
  | .name _ => 3

/-- The text of a component that is a name. -/
def text : Component → String
  | .name text => text
  | _ => ""

/-- Ascending order: by form, and names by their characters. -/
def precedes (left right : Component) : Bool :=
  left.rank < right.rank || (left.rank == right.rank && left.text < right.text)

end Component

/-- The path starts at the root. -/
def isAbsolute (path : Path) : Bool := path.text.toList.head? == some '/'

/-- The component that a piece between separators adds. -/
def componentOf? (piece : List Char) : Option Component :=
  if piece = [] ∨ piece = ['.'] then none
  else if piece = ['.', '.'] then some .parent
  else some (.name (String.ofList piece))

/-- The components of a path, in order. -/
def components (path : Path) : List Component :=
  let pieces := Text.pieces '/' path.text.toList
  let start : List Component :=
    if path.isAbsolute then [.root]
    else if pieces.head? = some ['.'] then [.current]
    else []
  start ++ pieces.filterMap componentOf?

/-- Two paths have the same components. -/
def same (left right : Path) : Bool := left.components == right.components

/-- Ascending order of lists of components, a list before its extensions. -/
def componentsPrecede : List Component → List Component → Bool
  | _, [] => false
  | [], _ :: _ => true
  | left :: lefts, right :: rights =>
      left.precedes right || (left == right && componentsPrecede lefts rights)

/-- Not after another path, in the order of the components. -/
def notAfter (left right : Path) : Bool :=
  !componentsPrecede right.components left.components

/-- The name at the end of a path; a path that ends in `..` has none. -/
def fileName? (path : Path) : Option String :=
  match path.components.getLast? with
  | some (.name text) => some text
  | _ => none

/-- A piece between separators that adds no component where it stands at the end. -/
def isSilent (piece : List Char) : Bool := piece == [] || piece == ['.']

/-- The pieces of a path, from the last to the first, without the silent ones at
the end. -/
def dropSilent (atStart : Bool) : List (List Char) → List (List Char)
  | [] => []
  | [piece] => if atStart && piece == ['.'] then [piece] else if isSilent piece then [] else [piece]
  | piece :: rest => if isSilent piece then dropSilent atStart rest else piece :: rest

/-- The text of a path without its last component; the root and the empty path
have no parent. -/
def parent? (path : Path) : Option Path :=
  let absolute := path.isAbsolute
  let pieces := (Text.pieces '/' path.text.toList)
  let backwards := (if absolute then pieces.drop 1 else pieces).reverse
  match dropSilent (!absolute) backwards with
  | [] => none
  | _ :: rest =>
      let kept := (dropSilent (!absolute) rest).reverse
      let body := List.intercalate ['/'] kept
      some ⟨String.ofList (if absolute then '/' :: body else body)⟩

/-- The part of a file name after its last dot; a dot at the start of the name
does not count. -/
def nameExtension? (name : String) : Option String :=
  match Text.cutAt? '.' name.toList.reverse with
  | some (_, []) => none
  | some (after, _) => some (String.ofList after.reverse)
  | none => none

/-- The part of a file name before its extension. -/
def nameStem (name : String) : String :=
  match Text.cutAt? '.' name.toList.reverse with
  | some (_, []) => name
  | some (_, before) => String.ofList before.reverse
  | none => name

/-- The extension of the name at the end of a path. -/
def extension? (path : Path) : Option String := path.fileName?.bind nameExtension?

/-- The name at the end of a path without its extension. -/
def stem? (path : Path) : Option String := path.fileName?.map nameStem

/-- The path of something at a place relative to a path; an absolute place stays
itself. -/
def join (path : Path) (place : String) : Path :=
  if (Path.mk place).isAbsolute then ⟨place⟩
  else if path.text.isEmpty || path.text.toList.getLast? == some '/' then
    ⟨path.text ++ place⟩
  else ⟨path.text ++ "/" ++ place⟩

end Path

end Guidebook
