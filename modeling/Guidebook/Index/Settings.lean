import Guidebook.Error
import Guidebook.Files.Tree
import Guidebook.Glob.Pattern

/-!
# Settings of an index

Where an index looks for documents, which types of documents it looks for, and
what it demands of them.  Settings can be checked before they are used.
-/

namespace Guidebook

/-- A type of documents: its name, the glob of its files below the root, and what
is demanded of them. -/
structure DocumentType where
  name : String
  glob : String
  requiredFields : List String := []
  /-- The only extension of the files, without its dot. -/
  extension : Option String := none
  deriving DecidableEq, Repr, Inhabited

/-- An extension as it is written in settings, with or without leading dots. -/
def DocumentType.extensionOfHint (hint : String) : String :=
  String.ofList (hint.toList.dropWhile (· == '.'))

/-- The settings of an index. -/
structure IndexSettings where
  name : String := "localfs"
  root : Path
  types : List DocumentType := []
  /-- Every document has to give its id itself. -/
  requireExplicitId : Bool := true
  /-- The number of parsers that work at once, when it is given. -/
  workers : Option Nat := none
  deriving Repr, Inhabited

namespace IndexSettings

/-- The error of a glob that is no pattern. -/
def globError (type : DocumentType) (error : Glob.PatternError) : Error :=
  .invalidSettings
    s!"invalid glob '{type.glob}' for entity type '{type.name}': {error.message}"

/-- The first fault of some types of documents; `names` are the names before
them. -/
def typesFault? (names : List String) : List DocumentType → Option Error
  | [] => none
  | type :: rest =>
      if type.name.isEmpty then
        some (.invalidSettings "entity type with an empty name")
      else if names.contains type.name then
        some (.invalidSettings s!"entity type '{type.name}' is defined more than once")
      else
        match Glob.parseItems type.glob with
        | .error error => some (globError type error)
        | .ok _ => typesFault? (type.name :: names) rest

/-- The first fault of the settings: the root has to be a directory, and there
has to be a type; types have distinct names and proper globs; some parser has to
work. -/
def fault? (around : Surroundings) (settings : IndexSettings) : Option Error :=
  if !around.isDirectory settings.root then
    some <| .invalidSettings
      s!"root directory {settings.root.text} does not exist or is not a directory"
  else if settings.types.isEmpty then
    some (.invalidSettings "no entity types configured")
  else
    match typesFault? [] settings.types with
    | some error => some error
    | none =>
        if settings.workers = some 0 then
          some (.invalidSettings "parse_workers must be at least 1")
        else none

/-- Check the settings. -/
def validate (around : Surroundings) (settings : IndexSettings) : Except Error Unit :=
  match settings.fault? around with
  | some error => .error error
  | none => .ok ()

end IndexSettings

end Guidebook
