import Guidebook.Keyed
import Guidebook.Number.Binary64

/-!
# JSON values

A JSON value, with integers apart from floating-point numbers.  An object is the
list of its fields in the order in which they are written.
-/

namespace Guidebook

/-- A JSON value. -/
inductive Json where
  | null
  | bool (value : Bool)
  | int (value : Int)
  | float (value : Binary64)
  | str (value : String)
  | arr (items : List Json)
  | obj (fields : List (String × Json))
  deriving Repr, Inhabited

namespace Json

/-- The value of a field of a list of fields. -/
def lookup? (key : String) (fields : List (String × Json)) : Option Json :=
  fields.lookup key

/-- The value of a field of an object. -/
def field? (value : Json) (key : String) : Option Json :=
  match value with
  | .obj fields => lookup? key fields
  | _ => none

/-- The text of a string. -/
def text? : Json → Option String
  | .str value => some value
  | _ => none

/-- The strings of a list, in order. -/
def strings (values : List String) : Json :=
  .arr (values.map .str)

/-- The value, or `null` where there is none. -/
def ofOption {α : Type} (encode : α → Json) : Option α → Json
  | none => .null
  | some value => encode value

end Json

end Guidebook
