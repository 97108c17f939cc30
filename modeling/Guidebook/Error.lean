/-!
# Errors

What can go wrong between a query or a configuration and its answer.  An error is
its cause with the data that the cause names; `Error.message` is the only place
that words it.  An error is fatal when it ends a whole operation rather than the
work on one document or one backend.
-/

namespace Guidebook

/-- The cause of a failed operation. -/
inductive Error where
  /-- A token of a query stands where another kind of token is expected. -/
  | filterSyntax (token : String) (position : Nat) (expected : String)
  /-- A term of a query that is read strictly has an unknown key. -/
  | unknownFilterKey (key : String)
  /-- A wildcard cannot be made into a matcher. -/
  | invalidPattern (pattern reason : String)
  /-- An index that is loaded is loaded again. -/
  | alreadyInitialized
  /-- An index is asked before it is loaded. -/
  | notInitialized
  /-- Two documents of one index declare one id. -/
  | duplicateId (id first second : String)
  /-- The settings of an index cannot be used. -/
  | invalidSettings (reason : String)
  /-- An aggregate of no backends is asked for. -/
  | noBackends
  /-- Some members of an aggregate failed; each is named with its error. -/
  | backendFailures (operation : String) (failures : List (String × Error))
  /-- The configuration cannot be found, read or used. -/
  | config (reason : String)
  /-- The file system refused an operation. -/
  | io (text : String)
  deriving Repr, Inhabited

namespace Error

mutual

/-- The wording of an error. -/
def message : Error → String
  | .filterSyntax token position expected =>
      s!"filter syntax error at token {position} ('{token}'): expected {expected}"
  | .unknownFilterKey key => s!"unrecognized filter key '{key}'"
  | .invalidPattern pattern reason => s!"invalid wildcard pattern: {pattern}: {reason}"
  | .alreadyInitialized => "index is already initialized"
  | .notInitialized => "index is not initialized"
  | .duplicateId id first second =>
      s!"duplicate id '{id}' declared by {first} and {second}"
  | .invalidSettings reason => s!"invalid index settings: {reason}"
  | .noBackends => "cannot aggregate zero backends"
  | .backendFailures operation failures =>
      toString failures.length ++ " backend(s) failed during " ++ operation ++ ": " ++
        String.intercalate "; " (failureTexts failures)
  | .config reason => s!"configuration error: {reason}"
  | .io text => s!"I/O error: {text}"

/-- The wordings of the failures of an aggregate, each after the member's name. -/
def failureTexts : List (String × Error) → List String
  | [] => []
  | (backend, error) :: rest =>
      (backend ++ ": " ++ message error) :: failureTexts rest

end

/-- The error ends a whole operation. -/
def isFatal : Error → Bool
  | .duplicateId .. | .invalidSettings _ | .alreadyInitialized | .noBackends
  | .config _ => true
  | _ => false

/-- The error is about the text of a query. -/
def isFilterError : Error → Bool
  | .filterSyntax .. | .unknownFilterKey _ | .invalidPattern .. => true
  | _ => false

end Error

/-- Two attempts in a row succeed when the first does, and the second with its value. -/
theorem bind_eq_ok_iff {ε α β : Type} {attempt : Except ε α} {next : α → Except ε β}
    {result : β} :
    (attempt >>= next) = .ok result ↔ ∃ value, attempt = .ok value ∧ next value = .ok result := by
  cases attempt with
  | error error => simp [bind, Except.bind]
  | ok value => simp [bind, Except.bind]

/-- Two attempts in a row fail with the first, or with the second when the first succeeds. -/
theorem bind_eq_error_iff {ε α β : Type} {attempt : Except ε α} {next : α → Except ε β}
    {error : ε} :
    (attempt >>= next) = .error error ↔
      attempt = .error error ∨ ∃ value, attempt = .ok value ∧ next value = .error error := by
  cases attempt with
  | error other => simp [bind, Except.bind]
  | ok value => simp [bind, Except.bind]

/-- What is alike after a first attempt, whatever its value, is alike altogether. -/
theorem map_bind_congr {ε α β γ : Type} {view : β → γ} {attempt : Except ε α}
    {left right : α → Except ε β}
    (alike : ∀ value, (left value).map view = (right value).map view) :
    (attempt >>= left).map view = (attempt >>= right).map view := by
  cases attempt with
  | error error => rfl
  | ok value => exact alike value

section Lists

variable {ε α β : Type} {attempt : α → Except ε β}

/-- Attempts at some items succeed together if each of them does. -/
theorem mapM_eq_ok_iff {items : List α} {results : List β} :
    items.mapM attempt = .ok results ↔ items.map attempt = results.map .ok := by
  induction items generalizing results with
  | nil => cases results <;> simp [pure, Except.pure]
  | cons item rest ih =>
      rw [List.mapM_cons, bind_eq_ok_iff, List.map_cons]
      simp only [bind_eq_ok_iff, ih, pure, Except.pure, Except.ok.injEq]
      cases results with
      | nil => simp
      | cons result others =>
          simp only [List.cons.injEq, List.map_cons]
          grind

theorem exists_mapM_eq_ok_iff {items : List α} :
    (∃ results, items.mapM attempt = .ok results) ↔
      ∀ item ∈ items, ∃ result, attempt item = .ok result := by
  induction items with
  | nil => simp [pure, Except.pure]
  | cons item rest ih =>
      simp only [List.mapM_cons, bind_eq_ok_iff, List.forall_mem_cons, ← ih, pure, Except.pure]
      grind

theorem exists_of_mem_of_mapM {items : List α} {results : List β}
    (succeeds : items.mapM attempt = .ok results) {result : β} (member : result ∈ results) :
    ∃ item ∈ items, attempt item = .ok result := by
  have outcome : Except.ok result ∈ items.map attempt := by
    rw [mapM_eq_ok_iff.mp succeeds]
    exact List.mem_map_of_mem member
  exact List.mem_map.mp outcome

theorem mapM_cons_eq_error_iff {item : α} {rest : List α} {error : ε} :
    (item :: rest).mapM attempt = .error error ↔ attempt item = .error error ∨
      (∃ result, attempt item = .ok result) ∧ rest.mapM attempt = .error error := by
  rw [List.mapM_cons]
  cases attempt item <;> cases rest.mapM attempt <;>
    simp [bind, Except.bind, pure, Except.pure]

/-- The first attempt that fails is the one whose error is passed on. -/
theorem mapM_eq_error_iff {items : List α} {error : ε} :
    items.mapM attempt = .error error ↔ ∃ before item after, items = before ++ item :: after ∧
      (∀ earlier ∈ before, ∃ result, attempt earlier = .ok result) ∧
      attempt item = .error error := by
  induction items with
  | nil => simp [pure, Except.pure]
  | cons first rest ih =>
      rw [mapM_cons_eq_error_iff, ih]
      constructor
      · rintro (fails | ⟨fine, before, item, after, rfl, earlier, fails⟩)
        · exact ⟨[], first, rest, rfl, by simp, fails⟩
        · exact ⟨first :: before, item, after, rfl,
            List.forall_mem_cons.mpr ⟨fine, earlier⟩, fails⟩
      · rintro ⟨before, item, after, shape, fine, fails⟩
        cases before with
        | nil =>
            cases shape
            exact .inl fails
        | cons other before =>
            cases shape
            rw [List.forall_mem_cons] at fine
            exact .inr ⟨fine.1, before, item, after, rfl, fine.2, fails⟩

end Lists

end Guidebook
