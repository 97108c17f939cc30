import Guidebook.Command.Arguments
import Guidebook.Command.Report
import Guidebook.Config.Discovery

/-!
# Running the command

A run reads its arguments, finds its configuration and carries out its task.  It
leaves an exit code and two texts: the answer, and the messages beside it.  The
code is 0 after an answer, 1 after a failure and 2 after arguments that cannot be
read.
-/

namespace Guidebook.Command

/-- What a run leaves behind. -/
structure Outcome where
  code : Nat := 0
  output : String := ""
  messages : String := ""
  deriving DecidableEq, Repr

/-- The name and the version of the command. -/
def version : String := "waymark 0.1.0\n"

/-- How the command is used. -/
def usage : String :=
  lines ["Usage: waymark [OPTIONS] <COMMAND>", "",
    "Commands:",
    "  summary   List document summaries",
    "  ids       List the ids of documents matching a filter",
    "  details   Show full documents",
    "  validate  Load every backend and report rejected documents", "",
    "Options:",
    "  -c, --config <CONFIG>  Path to configuration file [env: WAYMARK_CONFIG=]",
    "  -v, --verbose...       Verbosity level (-v, -vv)",
    "  -q, --quiet            Suppress all output except errors",
    "  -h, --help             Print help",
    "  -V, --version          Print version"]

namespace Outcome

/-- The outcome of a run that was stopped. -/
def ofStop : Stop → Outcome
  | .help => { output := usage }
  | .version => { output := version }
  | .misuse => { code := 2, messages := usage }

/-- The outcome of a run that failed after it had written a part of its answer. -/
def ofFailure (output : String) (failure : Failure) : Outcome where
  code := 1
  output := output
  messages := failure.report

/-- The outcome of an attempt. -/
def ofExcept (attempt : Except Failure Outcome) : Outcome :=
  match attempt with
  | .ok outcome => outcome
  | .error failure => ofFailure "" failure

/-- The list of some values as JSON. -/
def json (items : List Json) : Outcome := { output := lines [(Json.arr items).pretty] }

/-- A list of summaries. -/
def summaries (format : Format) (items : List Summary) : Outcome :=
  match format with
  | .json => json (items.map (·.toJson))
  | .text =>
      { output := lines (items.map summaryLine)
        messages := lines ["", s!"{items.length} documents"] }

/-- A list of ids. -/
def ids (format : Format) (items : List String) : Outcome :=
  match format with
  | .json => json (items.map .str)
  | .text => { output := lines items }

/-- Documents in full. -/
def delivery (format : Format) (delivery : Delivery) : Outcome :=
  let messages := lines (delivery.missing.map ("not found: " ++ ·))
  match format with
  | .json => { json (delivery.found.map entityRecord) with messages := messages }
  | .text => { output := String.join (delivery.found.map entityPage), messages := messages }

/-- The findings of a check, and the verdict. -/
def check (config : Config) (findings : List Finding) : Outcome :=
  let text := checkText config findings
  match faults? findings with
  | some failure => ofFailure text failure
  | none => { output := text ++ lines ["All documents valid."] }

end Outcome

variable [Query.Wildcard.Compiler]

/-- Carry out a task with a configuration. -/
def Task.run (around : Surroundings) (config : Config) : Task → Except Failure Outcome
  | .summary question format => do
      let query ← question.read
      let backend ← serve around config
      return .summaries format (chosenSummaries backend query)
  | .ids question format => do
      let query ← question.read
      let backend ← serve around config
      return .ids format (chosenIds backend query)
  | .details listed question format => do
      let query ← question.read
      if listed.isEmpty && query.isNone then throw .nothingRequested
      let backend ← serve around config
      return .delivery format (deliver backend (requestedIds backend query listed))
  | .validate => return .check config (findings around config)

/-- Find the configuration of an invocation and carry out its task. -/
def Invocation.run (around : Surroundings) (invocation : Invocation) : Outcome :=
  .ofExcept do
    let config ← (Config.discover around invocation.config).mapError .plain
    invocation.task.run around config

/-- Run the command with arguments. -/
def run (around : Surroundings) (arguments : List String) : Outcome :=
  match Invocation.parse (around.variableValue? Config.variableName) arguments with
  | .error stop => .ofStop stop
  | .ok invocation => invocation.run around

end Guidebook.Command
