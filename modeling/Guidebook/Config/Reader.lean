import Guidebook.Config.Basic
import Guidebook.Config.Markup

/-!
# Reading a configuration

A record of a configuration has known fields, which have defaults; what else is in
it does not count.  A known field may be there once.  The fields of a backend but
for its name depend on its type, so they are read first and understood later.
-/

namespace Guidebook.Config

variable {ν : Type} [Markup ν]

/-- The value of a field with a name among named fields; it may be there once. -/
def namedField (name : String) (fields : List (String × ν)) : Reading (Option ν) :=
  match fields.filter (·.1 == name) with
  | [] => return none
  | [(_, value)] => return some value
  | _ => failure

/-- The values of the known fields of a record. -/
def knownFields (names : List String) (value : ν) : Reading (List (Option ν)) := do
  match ← Markup.fields names.length value with
  | .named fields => names.mapM fun name => namedField name fields
  | .placed values => return (List.range names.length).map fun place => values[place]?

/-- The value that is read from a field, or a default. -/
def orDefault {α : Type} (default : α) (read : ν → Reading α) : Option ν → Reading α
  | none => return default
  | some value => read value

/-- A list of texts. -/
def texts (value : ν) : Reading (List String) := do
  (← Markup.items value).mapM Markup.text

/-- A text that may be absent. -/
def optionalText (value : ν) : Reading (Option String) := do
  match ← Markup.optional value with
  | none => return none
  | some value => return some (← Markup.text value)

/-- The log level of the general settings. -/
def readGeneral (value : ν) : Reading String := do
  match ← knownFields ["log_level"] value with
  | [level] => orDefault "info" Markup.text level
  | _ => failure

/-- The number of parsers of the performance settings. -/
def readPerformance (value : ν) : Reading Nat := do
  match ← knownFields ["parse_workers"] value with
  | [workers] => orDefault 0 Markup.number workers
  | _ => failure

/-- A type of documents. -/
def readType (value : ν) : Reading TypeConfig := do
  match ← knownFields ["name", "description", "requiredFields", "fileExtensionHint"] value with
  | [some name, description, requiredFields, hint] =>
      let name ← Markup.text name
      let description ← orDefault "" Markup.text description
      let requiredFields ← orDefault [] texts requiredFields
      let hint ← orDefault none optionalText hint
      return ⟨name, description, requiredFields, hint⟩
  | _ => failure

/-- The value of a field among fields that are read already; it may be there once. -/
def onlyField? (name : String) (fields : List (String × Loose)) : Option (Option Loose) :=
  match fields.filter (·.1 == name) with
  | [] => some none
  | [(_, value)] => some (some value)
  | _ => none

/-- The type of a backend is the known one, by its name or by its place. -/
def isKnownType : Loose → Bool
  | .text name => name == BackendConfig.typeName
  | .number place => place == 0
  | _ => false

/-- A backend with a name from its other fields. -/
def backendOf? (name : String) (fields : List (String × Loose)) : Option BackendConfig := do
  let type ← onlyField? "type" fields
  guard (type.any isKnownType)
  let root ← onlyField? "rootDir" fields
  let explicitId ← onlyField? "requireExplicitId" fields
  let locations ← onlyField? "entityLocations" fields
  return {
    name
    rootDirectory := ← (root.map Loose.text?).getD (some "")
    requireExplicitId := ← (explicitId.map Loose.truth?).getD (some true)
    locations := Keyed.ofList (← (locations.map Loose.texts?).getD (some [])) }

/-- A backend. -/
def readBackend (value : ν) : Reading BackendConfig := do
  match ← Markup.fields 0 value with
  | .placed _ => failure
  | .named fields =>
      let name ← orDefault "" Markup.text (← namedField "name" fields)
      let others ← (fields.filter (·.1 != "name")).mapM fun (key, value) =>
        return (key, ← Markup.loose value)
      backendOf? name others

/-- A configuration. -/
def read (value : ν) : Reading Config := do
  match ← knownFields ["general", "performance", "entityTypes", "backends"] value with
  | [general, performance, types, backends] =>
      let logLevel ← orDefault "info" readGeneral general
      let parseWorkers ← orDefault 0 readPerformance performance
      let types ← orDefault [] (fun value => do (← Markup.items value).mapM readType) types
      let backends ←
        orDefault [] (fun value => do (← Markup.items value).mapM readBackend) backends
      return { logLevel, parseWorkers, types, backends }
  | _ => failure

/-- The configuration that a value writes. -/
def ofMarkup? (value : ν) : Option Config := (read value).run' 0

end Guidebook.Config
