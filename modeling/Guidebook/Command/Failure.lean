import Guidebook.Error
import Guidebook.Text.Split

/-!
# Failures

Why a task that was understood is not carried out: an error, with what was tried
when it arose.  A failure is reported with its headline and, where an error stands
behind the headline, with that error as its cause.
-/

namespace Guidebook.Command

/-- Why a task fails. -/
inductive Failure where
  /-- An error that speaks for itself. -/
  | plain (error : Error)
  /-- A query cannot be read. -/
  | query (text : String) (cause : Error)
  /-- A backend of the configuration has no usable settings. -/
  | settings (backend : String) (cause : Error)
  /-- The index of a backend cannot be loaded. -/
  | load (backend : String) (cause : Error)
  /-- Details are asked for without ids and without a query. -/
  | nothingRequested
  /-- The check of a configuration found faults. -/
  | faults (failed rejected : Nat)
  deriving Repr, Inhabited

namespace Failure

/-- What a failure says first. -/
def headline : Failure → String
  | .plain error => error.message
  | .query text _ => s!"invalid filter '{text}'"
  | .settings backend _ => s!"invalid settings for backend '{backend}'"
  | .load backend _ => s!"failed to load backend '{backend}'"
  | .nothingRequested => "provide one or more ids, or --filter"
  | .faults failed rejected =>
      s!"{failed} backend(s) failed to load, {rejected} document(s) rejected"

/-- The error behind the headline. -/
def cause? : Failure → Option Error
  | .query _ cause | .settings _ cause | .load _ cause => some cause
  | _ => none

/-- A text whose lines are moved to the right by the same indentation. -/
def indent (indentation text : String) : String :=
  indentation ++ String.intercalate ("\n" ++ indentation)
    ((Text.pieces '\n' text.toList).map String.ofList)

/-- The report of a failure that ends a run. -/
def report (failure : Failure) : String :=
  "Error: " ++ failure.headline ++
    (match failure.cause? with
    | some cause => "\n\nCaused by:\n" ++ indent "    " cause.message
    | none => "") ++ "\n"

/-- A failure without a cause is reported in one line. -/
theorem report_of_cause?_eq_none {failure : Failure} (bare : failure.cause? = none) :
    failure.report = "Error: " ++ failure.headline ++ "\n" := by
  rw [report, bare, String.append_empty]

/-- The report of a failure among the findings on the backends.  A backend is already
named there, so an index that cannot be loaded is reported by the cause alone. -/
def remark : Failure → String
  | .load _ cause => cause.message
  | failure =>
      failure.headline ++ ((failure.cause?.map fun cause => ": " ++ cause.message).getD "")

end Failure

end Guidebook.Command
