import Guidebook.Command.Service
import Guidebook.Entity.Codec
import Guidebook.Json.Printer

/-!
# Reports

How the answers of the tasks are written: a line for a summary, a page for a
document, and a section for each backend that is checked.
-/

namespace Guidebook.Command

/-- A text with blanks at its end up to a width. -/
def padEnd (width : Nat) (text : String) : String :=
  text ++ String.ofList (List.replicate (width - text.length) ' ')

/-- Each of some texts as a line. -/
def lines (texts : List String) : String :=
  String.join (texts.map (· ++ "\n"))

/-- The width of the ids in a list of summaries. -/
def idWidth : Nat := 28

/-- The width of the kinds and tiers in a list of summaries. -/
def kindWidth : Nat := 16

/-- A summary as a line: the id, the kind with the tier, the description and the
tags. -/
def summaryLine (summary : Summary) : String :=
  let kind :=
    match summary.tier with
    | some tier => summary.kind.name ++ "/" ++ tier.name
    | none => summary.kind.name
  let tags :=
    if summary.tags.isEmpty then ""
    else " [" ++ String.intercalate ", " summary.tags ++ "]"
  let line :=
    padEnd idWidth summary.id ++ " " ++ padEnd kindWidth kind ++ " " ++
      summary.description ++ tags
  String.ofList (Text.trimEnd line.toList)

/-- A document as a page: a heading, what is known of the document, and its body. -/
def entityPage (entity : Entity) : String :=
  let nature :=
    match entity.tier with
    | some tier => entity.kind.name ++ ", " ++ tier.name
    | none => entity.kind.name
  let backend := entity.originatingBackend.toList.map ("backend: " ++ ·)
  let tags :=
    if entity.tags.isEmpty then []
    else ["tags:    " ++ String.intercalate ", " entity.tags]
  let description := entity.description?.toList.map ("description: " ++ ·)
  lines (["== " ++ entity.id ++ " (" ++ nature ++ ") ==",
      "source:  " ++ entity.resourceLocator] ++
    backend ++ ["updated: " ++ entity.lastUpdated.plain] ++ tags ++ description ++ [""]) ++
  if entity.body.isEmpty then "" else entity.body ++ "\n\n"

/-- A document as a record, with the backend that served it. -/
def entityRecord (entity : Entity) : Json :=
  .obj <| entity.toFields ++
    (entity.originatingBackend.map fun backend => ("backend", Json.str backend)).toList

/-- What came of loading a backend of a configuration. -/
structure Finding where
  backend : BackendConfig
  result : Except Failure Index

namespace Finding

/-- Load a backend to see what comes of it. -/
def of (around : Surroundings) (config : Config) (backend : BackendConfig) : Finding :=
  ⟨backend, loadIndex around config backend⟩

/-- The backend could not be loaded. -/
def failed (finding : Finding) : Bool := !finding.result.isOk

/-- The documents that the backend refused. -/
def rejections (finding : Finding) : List Rejection :=
  match finding.result with
  | .ok index => index.rejections
  | .error _ => []

/-- The section of a finding: a heading, and the remark on a failure or the counts
and the refused documents, with a blank line at the end. -/
def text (finding : Finding) : String :=
  lines <|
    [s!"Backend '{finding.backend.name}' ({BackendConfig.typeName}):"] ++
    match finding.result with
    | .error failure => ["  ✗ " ++ failure.remark]
    | .ok index =>
        let stats := index.stats.getD ⟨0, 0, 0⟩
        [s!"  Discovered: {stats.discovered}", s!"  Indexed:    {stats.indexed}",
          s!"  Rejected:   {stats.rejected}", "  Load time:  0 ms"] ++
        (index.rejections.map fun rejection =>
          s!"    {rejection.path.text} [{rejection.typeName}]: {rejection.reason}") ++ [""]

end Finding

/-- The findings on all backends of a configuration, in order. -/
def findings (around : Surroundings) (config : Config) : List Finding :=
  config.backends.map (Finding.of around config)

/-- The failure of a check, where there were faults. -/
def faults? (findings : List Finding) : Option Failure :=
  let failed := findings.countP (·.failed)
  let rejected := (findings.flatMap (·.rejections)).length
  if failed = 0 ∧ rejected = 0 then none else some (.faults failed rejected)

/-- The report of a check, but for its verdict. -/
def checkText (config : Config) (findings : List Finding) : String :=
  lines (["Waymark Validation", "=================="] ++
    (config.source.toList.map fun path => "Config: " ++ path.text) ++ [""]) ++
  String.join (findings.map (·.text))

end Guidebook.Command
