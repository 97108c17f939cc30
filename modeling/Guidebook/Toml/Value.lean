import Guidebook.Number.Binary64

/-!
# TOML values
-/

namespace Guidebook.Toml

/-- A TOML value.  A date or a time is kept as its text. -/
inductive Value where
  | text (value : String)
  | int (value : Int)
  | float (value : Binary64)
  | bool (value : Bool)
  | time (text : String)
  | array (items : List Value)
  | table (entries : List (String × Value))
  deriving Repr, Inhabited

end Guidebook.Toml
