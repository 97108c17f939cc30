import Guidebook.Entity.Basic
import Guidebook.Files.Tree
import Guidebook.Index.Settings
import Guidebook.Json.Printer
import Guidebook.Yaml.Document

/-!
# Documents

A document is a front matter between two `---` and a body after the second.  The
front matter is a YAML mapping, from which the id and, for a behavior, the tier
are taken.  A document that breaks a rule is refused by the first rule that it
breaks.
-/

namespace Guidebook

/-- What is wrong with a document. -/
inductive DocumentError where
  | read (fault : String)
  | missingFrontMatter
  | yaml (fault : String)
  | notMapping (found : String)
  | missingField (field : String)
  | missingId (reason : String)
  | invalidTier (reason : String)
  deriving DecidableEq, Repr, Inhabited

/-- The wording of a document error. -/
def DocumentError.message : DocumentError → String
  | .read fault => s!"failed to read file: {fault}"
  | .missingFrontMatter =>
      "no frontmatter detected (must start with '---' and close with a second '---')"
  | .yaml fault => s!"YAML parsing error: {fault}"
  | .notMapping found => s!"frontmatter must be a mapping, found {found}"
  | .missingField field => s!"missing required frontmatter key '{field}'"
  | .missingId reason => s!"missing id: {reason}"
  | .invalidTier reason => s!"invalid tier: {reason}"

/-- A document that was refused, and why. -/
structure Rejection where
  path : Path
  typeName : String
  reason : String
  deriving DecidableEq, Repr, Inhabited

/-- The record of a refused document. -/
def Rejection.of (path : Path) (typeName : String) (error : DocumentError) : Rejection :=
  ⟨path, typeName, error.message⟩

namespace FrontMatter

/-- The mark before and after a front matter. -/
def delimiter : List Char := ['-', '-', '-']

/-- The front matter and the body of a text: what stands between its first two
delimiters, and what stands after them without the blanks around it.  Nothing but
blanks may stand before. -/
def split? (text : List Char) : Option (List Char × List Char) := do
  let (before, rest) ← Text.cutAround? delimiter text
  let (yaml, body) ← Text.cutAround? delimiter rest
  if Text.allBlank before then return (yaml, Text.trim body) else none

/-- What a value is called that is not a mapping. -/
def describe : Yaml.Value → String
  | .null => "null"
  | .bool _ => "a boolean"
  | .int _ | .float _ => "a number"
  | .text _ => "a string"
  | .sequence _ => "a sequence"
  | .mapping _ => "a mapping"
  | .tagged .. => "a tagged value"

/-- The fields of a value, whatever the tag of a mapping; null has none.  A mapping that
has other keys than texts is at fault. -/
def ofValue (fault : String) (value : Yaml.Value) : Except DocumentError Metadata :=
  match value.untagged, value with
  | .mapping entries, _ =>
      match Yaml.Value.fieldsOf? entries with
      | some fields => .ok (Keyed.ofList fields)
      | none => .error (.yaml fault)
  | _, .null => .ok []
  | _, value => .error (.notMapping (describe value))

/-- The fields of a front matter; a blank one has none.  `wording` says what is wrong with
a text that cannot be read. -/
def parse (wording : String → String) (yaml : List Char) : Except DocumentError Metadata :=
  if Text.allBlank yaml then .ok []
  else
    match Yaml.Value.parse? (String.ofList yaml) with
    | some value => ofValue (wording (String.ofList yaml)) value
    | none => .error (.yaml (wording (String.ofList yaml)))

/-- The text of a field, when it is not blank. -/
def solidText? (metadata : Metadata) (key : String) : Option String := do
  let text ← (Json.lookup? key metadata).bind Json.text?
  if Text.allBlank text.toList then none else return text

/-- The id of a document: its `id`, or, unless it has to be explicit, the title of
a behavior or the stem of the file's name. -/
def resolveId (metadata : Metadata) (kind : Kind) (path : Path) (requireExplicitId : Bool) :
    Except DocumentError String :=
  match solidText? metadata "id" with
  | some id => .ok id
  | none =>
      if requireExplicitId then .error (.missingId "'id' must be a non-empty string")
      else
        match if kind.isBehavior then solidText? metadata "title" else none with
        | some title => .ok title
        | none =>
            match path.stem?.filter (!·.isEmpty) with
            | some stem => .ok stem
            | none => .error (.missingId "cannot derive an id from the file name")

/-- The tier that the directory of a file names. -/
def tierOfDirectory? (path : Path) : Option Tier := do
  Tier.ofName? (← (← path.parent?).fileName?)

/-- The tier of a behavior: its `tier`, or else the one that its directory names. -/
def resolveTier (metadata : Metadata) (path : Path) : Except DocumentError Tier :=
  match Json.lookup? "tier" metadata with
  | some (.str name) =>
      match Tier.ofName? name with
      | some tier => .ok tier
      | none => .error (.invalidTier s!"'{name}' is not 'must' or 'should'")
  | some .null | none =>
      match tierOfDirectory? path with
      | some tier => .ok tier
      | none => .error <| .invalidTier
          "no 'tier' field and the parent directory is neither 'must' nor 'should'"
  | some other => .error (.invalidTier s!"expected a string, found {other.compact}")

end FrontMatter

namespace Document

/-- The entity that the text of a file holds; `wording` is for faults of its front matter. -/
def parse (wording : String → String) (path : Path) (text : String) (type : DocumentType)
    (requireExplicitId : Bool) (modified : Moment) : Except DocumentError Entity := do
  match FrontMatter.split? text.toList with
  | none => throw .missingFrontMatter
  | some (yaml, body) =>
      let metadata ← FrontMatter.parse wording yaml
      if let some field :=
          type.requiredFields.find? fun field => (Json.lookup? field metadata).isNone then
        throw (.missingField field)
      let kind := Kind.ofName type.name
      let id ← FrontMatter.resolveId metadata kind path requireExplicitId
      let tier ←
        if kind.isBehavior then (FrontMatter.resolveTier metadata path).map some
        else pure none
      return {
        id, kind, tier, metadata
        body := String.ofList body
        resourceLocator := path.text
        lastUpdated := modified }

/-- The entity that a file holds. -/
def load (around : Surroundings) (path : Path) (type : DocumentType)
    (requireExplicitId : Bool) : Except DocumentError Entity :=
  match around.readFile path with
  | .error fault => .error (.read fault.message)
  | .ok (text, modified) =>
      parse around.frontMatterFault path text type requireExplicitId modified

end Document

end Guidebook
