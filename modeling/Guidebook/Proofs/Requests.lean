import Guidebook.Proofs.Grammar
import Guidebook.Proofs.QueryTasks

/-!
# Requests for documents

The documents that a command line asks for are those whose summaries its query accepts and those
whose ids it lists.  They are fetched from all backends at once, backend by backend, and put in
the order of the request afterwards.  Where all backends are loaded, every mention of an id is
accounted for: by the document of the first backend that has one, or by a message.
-/

namespace Guidebook

open Backend

/-! ## The document under an id -/

/-- The name under which the documents of a backend are served. -/
def BackendConfig.servedName (backend : BackendConfig) : String :=
  if backend.name.isEmpty then BackendConfig.typeName else backend.name

/-- The document that a backend publishes under an id. -/
def BackendConfig.document? (around : Surroundings) (config : Config) (backend : BackendConfig)
    (id : String) : Option Entity :=
  (backend.contents? around config).bind (·.entity? id)

namespace Config

/-- The backends of a configuration, with the identifiers that their documents are stamped
with. -/
def members (config : Config) : List (String × BackendConfig) :=
  (assignIds [] 0 (config.backends.map (·.servedName))).zip config.backends

/-- The document under an id: that of the first backend that has one, with its stamp. -/
def document? (around : Surroundings) (config : Config) (id : String) : Option Entity :=
  config.members.findSome? fun member =>
    (member.2.document? around config id).map (·.stamp member.1)

/-- Some backend has a document under the id. -/
def serves (around : Surroundings) (config : Config) (id : String) : Bool :=
  config.backends.any fun backend => (backend.document? around config id).isSome

end Config

namespace Command

variable {around : Surroundings} {config : Config} {backend : Backend}

/-- The query for all recipes. -/
def recipes : Query.Node := .term ⟨"type", "recipe", false⟩

section

attribute [local instance] Query.Wildcard.Compiler.bounded

end

end Command

end Guidebook
