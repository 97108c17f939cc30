/-!
# Kinds and tiers

A document is a behavior, a recipe or of another kind known by its name.  A
behavior has a tier, which says how binding it is.
-/

namespace Guidebook

/-- The kind of a document. -/
inductive Kind where
  | behavior
  | recipe
  | other (name : String)
  deriving DecidableEq, Repr, Inhabited

namespace Kind

/-- The name of a kind. -/
def name : Kind → String
  | .behavior => "behavior"
  | .recipe => "recipe"
  | .other name => name

/-- The kind with a name. -/
def ofName (name : String) : Kind :=
  if name = "behavior" then .behavior
  else if name = "recipe" then .recipe
  else .other name

/-- The kind is the behavior. -/
def isBehavior : Kind → Bool
  | .behavior => true
  | _ => false

@[simp] theorem name_ofName (name : String) : (ofName name).name = name := by
  unfold ofName
  split
  · next same => simp [Kind.name, same]
  · split
    · next same => simp [Kind.name, same]
    · rfl

end Kind

/-- How binding a behavior is. -/
inductive Tier where
  | must
  | should
  deriving DecidableEq, Repr, Inhabited

namespace Tier

/-- The name of a tier. -/
def name : Tier → String
  | .must => "must"
  | .should => "should"

/-- The tier with a name, which is compared exactly. -/
def ofName? (name : String) : Option Tier :=
  if name = "must" then some .must
  else if name = "should" then some .should
  else none

@[simp] theorem ofName?_name (tier : Tier) : ofName? tier.name = some tier := by
  cases tier <;> simp [ofName?, name]

/-- The wording of the refusal of a name. -/
def unknownMessage (name : String) : String := s!"unknown tier '{name}'"

end Tier

end Guidebook
