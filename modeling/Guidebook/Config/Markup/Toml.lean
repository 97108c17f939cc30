import Guidebook.Config.Reader
import Guidebook.Toml.Reader

/-!
# Configurations in TOML

TOML as a notation for configurations.  A record may be written as an array of its
values, of which those beyond its fields do not count.  A date is a record with one
field of its own.
-/

namespace Guidebook.Toml

/-- The name of the only field of a date. -/
def timeField : String := "$__toml_private_datetime"

mutual

/-- A value of any type. -/
def Value.toLoose : Value → Loose
  | .text value => .text value
  | .bool value => .truth value
  | .time content => .record [(.text timeField, .text content)]
  | .table entries => .record (Value.toLooseFields entries)
  | .int _ | .float _ | .array _ => .other

/-- The fields of a record of any type. -/
def Value.toLooseFields : List (String × Value) → List (Loose × Loose)
  | [] => []
  | (name, value) :: rest => (.text name, Value.toLoose value) :: Value.toLooseFields rest

end

instance : Markup Value where
  text
    | .text value => return value
    | _ => failure
  number
    | .int value => if 0 ≤ value then return value.toNat else failure
    | _ => failure
  items
    | .array items => return items
    | _ => failure
  optional value := return some value
  fields _
    | .table entries => return .named entries
    | .time content => return .named [(timeField, .text content)]
    | .array items => return .placed items
    | _ => failure
  loose value := return value.toLoose

end Guidebook.Toml

namespace Guidebook.Config

/-- The configuration that a TOML text writes. -/
def ofToml? (text : String) : Option Config := do
  ofMarkup? (← Toml.Value.parse? text)

end Guidebook.Config
