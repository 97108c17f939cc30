import Guidebook.Config.Reader
import Guidebook.Json.Value

/-!
# Configurations as JSON

The written form of a configuration, and JSON as a notation for configurations.  A
record may be written as an array of its values, but not of more.
-/

namespace Guidebook

namespace Json

mutual

/-- A value of any type. -/
def toLoose : Json → Loose
  | .str value => .text value
  | .bool value => .truth value
  | .int value => if 0 ≤ value then .number value.toNat else .other
  | .obj fields => .record (toLooseFields fields)
  | .null | .float _ | .arr _ => .other

/-- The fields of a record of any type. -/
def toLooseFields : List (String × Json) → List (Loose × Loose)
  | [] => []
  | (name, value) :: rest => (.text name, toLoose value) :: toLooseFields rest

end

instance : Markup Json where
  text
    | .str value => return value
    | _ => failure
  number
    | .int value => if 0 ≤ value then return value.toNat else failure
    | _ => failure
  items
    | .arr items => return items
    | _ => failure
  optional
    | .null => return none
    | value => return some value
  fields size
    | .obj fields => return .named fields
    | .arr items => if items.length ≤ size then return .placed items else failure
    | _ => failure
  loose value := return value.toLoose

end Json

/-- The written form of a type: an empty description and an absent extension are left
out. -/
def TypeConfig.toJson (type : TypeConfig) : Json :=
  .obj <|
    [("name", .str type.name)] ++
    (if type.description.isEmpty then [] else [("description", .str type.description)]) ++
    [("requiredFields", Json.strings type.requiredFields)] ++
    (type.extensionHint.map fun hint => ("fileExtensionHint", Json.str hint)).toList

/-- The written form of a backend. -/
def BackendConfig.toJson (backend : BackendConfig) : Json :=
  .obj [("name", .str backend.name), ("type", .str BackendConfig.typeName),
    ("rootDir", .str backend.rootDirectory),
    ("requireExplicitId", .bool backend.requireExplicitId),
    ("entityLocations", .obj (backend.locations.map fun (name, glob) => (name, .str glob)))]

namespace Config

/-- The written form of a configuration, which does not hold its file. -/
def toJson (config : Config) : Json :=
  .obj [("general", .obj [("log_level", .str config.logLevel)]),
    ("performance", .obj [("parse_workers", .int (Int.ofNat config.parseWorkers))]),
    ("entityTypes", .arr (config.types.map TypeConfig.toJson)),
    ("backends", .arr (config.backends.map BackendConfig.toJson))]

/-- The configuration that a JSON value writes. -/
def ofJson? (value : Json) : Option Config := ofMarkup? value

end Config

end Guidebook
