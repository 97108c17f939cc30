import Guidebook.Files.Path
import Guidebook.Query.Parser
import Guidebook.Text.Lowercase

/-!
# Tasks

What a command line can ask for: a list of summaries, a list of ids, documents in
full, or a check of the whole configuration.
-/

namespace Guidebook.Command

/-- The form of an answer. -/
inductive Format where
  | text
  | json
  deriving DecidableEq, Repr, Inhabited

/-- The form with a name, in any case of its letters. -/
def Format.ofName? (name : String) : Option Format :=
  match String.ofList (Text.lower name.toList) with
  | "text" => some .text
  | "json" => some .json
  | _ => none

/-- The name of a task. -/
inductive Verb where
  | summary
  | ids
  | details
  | validate
  deriving DecidableEq, Repr, Inhabited

/-- The task with a name. -/
def Verb.ofName? : String → Option Verb
  | "summary" => some .summary
  | "ids" => some .ids
  | "details" => some .details
  | "validate" => some .validate
  | _ => none

/-- A query as it is given, and how it is read. -/
structure Question where
  text : Option String := none
  mode : Query.Mode := .lenient
  deriving DecidableEq, Repr

/-- A task with all that it needs to know. -/
inductive Task where
  | summary (question : Question) (format : Format)
  | ids (question : Question) (format : Format)
  | details (listed : List String) (question : Question) (format : Format)
  | validate
  deriving DecidableEq, Repr

/-- What a command line asks for. -/
structure Invocation where
  /-- The file of the configuration, where one is named. -/
  config : Option Path
  task : Task
  deriving DecidableEq, Repr

end Guidebook.Command
