import Guidebook.Error
import Guidebook.Index.Settings

/-!
# Configurations

A configuration names the types of documents and the backends that serve them.
It is valid when both are there, types have distinct names, and every backend has
places for some of the types and for no others.
-/

namespace Guidebook

/-- A type of documents as a configuration describes it. -/
structure TypeConfig where
  name : String
  description : String := ""
  requiredFields : List String := []
  extensionHint : Option String := none
  deriving DecidableEq, Repr, Inhabited

/-- A backend that serves the files of a directory. -/
structure BackendConfig where
  name : String := ""
  /-- The directory, which is that of the configuration where it is empty. -/
  rootDirectory : String := ""
  requireExplicitId : Bool := true
  /-- The globs of the types, in ascending order of the types' names. -/
  locations : List (String × String) := []
  deriving DecidableEq, Repr, Inhabited

/-- The name of the only kind of backends. -/
def BackendConfig.typeName : String := "localfs"

/-- A configuration. -/
structure Config where
  logLevel : String := "info"
  /-- The number of parsers that work at once; zero leaves it open. -/
  parseWorkers : Nat := 0
  types : List TypeConfig := []
  backends : List BackendConfig := []
  /-- The file from which the configuration was read. -/
  source : Option Path := none
  deriving DecidableEq, Repr, Inhabited

namespace Config

/-- The number of parsers that work at once, when it is given. -/
def workers (config : Config) : Option Nat :=
  if config.parseWorkers = 0 then none else some config.parseWorkers

/-- The type with a name. -/
def type? (config : Config) (name : String) : Option TypeConfig :=
  config.types.find? (·.name == name)

/-- The first fault of some types, of which the first has the place `index`; `names`
are the names before them. -/
def typesFault? (index : Nat) (names : List String) : List TypeConfig → Option Error
  | [] => none
  | type :: rest =>
      if type.name.isEmpty then
        some (.config s!"entityTypes[{index}]: 'name' is required")
      else if names.contains type.name then
        some (.config s!"entityTypes[{index}]: duplicate entity type name '{type.name}'")
      else if !type.requiredFields.isEmpty && !type.requiredFields.contains "id" then
        some <| .config
          s!"entityTypes[{index}] (name='{type.name}'): 'requiredFields' must include 'id'"
      else typesFault? (index + 1) (type.name :: names) rest

/-- The first fault of some backends, of which the first has the place `index`. -/
def backendsFault? (names : List String) (index : Nat) : List BackendConfig → Option Error
  | [] => none
  | backend :: rest =>
      if backend.locations.isEmpty then
        some <| .config <|
          s!"backends[{index}] (name='{backend.name}'): " ++
            "'entityLocations' must contain at least one entry"
      else
        match backend.locations.find? fun location => !names.contains location.1 with
        | some (name, _) =>
            some <| .config <|
              s!"backends[{index}]: entityLocations refers to undefined entity type '{name}'"
        | none => backendsFault? names (index + 1) rest

/-- The first fault of a configuration. -/
def fault? (config : Config) : Option Error :=
  if config.types.isEmpty then
    some (.config "'entityTypes' is required and cannot be empty")
  else if config.backends.isEmpty then
    some (.config "'backends' is required and cannot be empty")
  else
    (typesFault? 0 [] config.types).or
      (backendsFault? (config.types.map (·.name)) 0 config.backends)

/-- Check a configuration. -/
def validate (config : Config) : Except Error Unit :=
  match config.fault? with
  | some error => .error error
  | none => .ok ()

/-- The directory to which the paths of a configuration are relative: that of its
file, or the working directory. -/
def directory (around : Surroundings) (config : Config) : Path :=
  ((config.source.bind Path.parent?).filter (!·.text.isEmpty)).getD around.workingDirectory

/-- The path that a root directory stands for.  A `~` at its start stands for the home
directory. -/
def expandRoot (around : Surroundings) (base : Path) (root : String) : Except Error Path :=
  match root.toList with
  | [] => .ok base
  | '~' :: rest =>
      match around.home with
      | none =>
          .error (.config s!"cannot expand rootDir '{root}': home directory is unknown")
      | some home =>
          match rest.dropWhile fun c => c == '/' || c == '\\' with
          | [] => .ok home
          | rest => .ok (home.join (String.ofList rest))
  | _ => .ok (base.join root)

/-- The root directory of a backend, which has to be there. -/
def resolveRoot (around : Surroundings) (base : Path) (root : String) : Except Error Path := do
  let path ← expandRoot around base root
  if !around.isDirectory path then
    throw <| .config
      s!"rootDir '{root}' resolves to {path.text}, which is not an existing directory"
  return path

end Config

/-- The type of documents of an index for a type of a configuration. -/
def TypeConfig.at (type : TypeConfig) (glob : String) : DocumentType where
  name := type.name
  glob := glob
  requiredFields := type.requiredFields
  extension := type.extensionHint.map DocumentType.extensionOfHint

/-- The settings of the index of a backend: the types for which the backend has
places, in the order of the configuration. -/
def IndexSettings.ofConfig (around : Surroundings) (config : Config)
    (backend : BackendConfig) : Except Error IndexSettings := do
  if let some (name, _) :=
      backend.locations.find? fun location => (config.type? location.1).isNone then
    throw <| .config <|
      s!"backend '{backend.name}': entityLocations refers to undefined entity type '{name}'"
  let root ← Config.resolveRoot around (config.directory around) backend.rootDirectory
  return {
    name := if backend.name.isEmpty then BackendConfig.typeName else backend.name
    root := root
    types := config.types.filterMap fun type =>
      (backend.locations.lookup type.name).map type.at
    requireExplicitId := backend.requireExplicitId
    workers := config.workers }

end Guidebook
