import Guidebook.Entity.Basic
import Guidebook.Error
import Guidebook.Query.Wildcard
import Guidebook.Text.Lowercase

/-!
# Terms of a query

A term `key:value` asks about one field of a summary.  The value `*` asks whether
the field is present; any other value is compared with the field up to case, and
a value of `tag` with a `*` in it is a wildcard.  A term with a leading `-` asks
for the opposite.
-/

namespace Guidebook.Query

/-- The field of a summary that a key names. -/
inductive Field where
  | id
  | kind
  | tier
  | tag
  | tags
  | description
  | unknown
  deriving DecidableEq, Repr

/-- The field with a key. -/
def Field.ofKey (key : String) : Field :=
  if key = "id" then .id
  else if key = "type" then .kind
  else if key = "tier" then .tier
  else if key = "tag" then .tag
  else if key = "tags" then .tags
  else if key = "description" then .description
  else .unknown

/-- A question about one field of a summary. -/
structure Term where
  key : String
  value : String
  negated : Bool
  deriving DecidableEq, Repr, Inhabited

namespace Term

/-- The field that the key names. -/
def field (term : Term) : Field := Field.ofKey term.key

/-- The term asks whether the field is present. -/
def isExistenceCheck (term : Term) : Bool := term.value = "*"

/-- The key names a field. -/
def isRecognized (term : Term) : Bool := term.field != .unknown

/-- The key is `tag`. -/
def isTagKey (term : Term) : Bool := term.field == .tag

/-- The field can be compared with a value, and not only be present. -/
def supportsValue (term : Term) : Bool :=
  match term.field with
  | .id | .kind | .tier | .tag => true
  | .tags | .description | .unknown => false

/-- The value is a wildcard over tags. -/
def isWildcard (term : Term) : Bool :=
  term.isTagKey && !term.isExistenceCheck && term.value.toList.contains '*'

/-- The term with a key in lower case.  It is refused when its value is a wildcard
that cannot be made into a matcher. -/
def make [Wildcard.Compiler] (key value : String) (negated : Bool) : Except Error Term :=
  let term : Term := ⟨String.ofList (Text.lower key.toList), value, negated⟩
  if term.isWildcard then
    match Wildcard.refusal? value.toList with
    | some reason => .error (.invalidPattern value reason)
    | none => .ok term
  else .ok term

/-- The field is present in the summary. -/
def presentIn (term : Term) (summary : Summary) : Bool :=
  match term.field with
  | .id => !summary.id.isEmpty
  | .kind => !summary.kind.name.isEmpty
  | .tier => summary.tier.isSome
  | .tag | .tags => !summary.tags.isEmpty
  | .description => !summary.description.isEmpty
  | .unknown => false

/-- A text is the value up to case. -/
def equalsValue (term : Term) (text : String) : Bool :=
  Text.eqFold text.toList term.value.toList

/-- A tag matches the value. -/
def matchesTag (term : Term) (tag : String) : Bool :=
  if term.isWildcard then Wildcard.isMatch term.value.toList tag.toList
  else term.equalsValue tag

/-- The field of the summary has the value. -/
def holdsValueIn (term : Term) (summary : Summary) : Bool :=
  match term.field with
  | .id => term.equalsValue summary.id
  | .kind => term.equalsValue summary.kind.name
  | .tier => summary.tier.any fun tier => term.equalsValue tier.name
  | .tag => summary.tags.any term.matchesTag
  | .tags | .description | .unknown => false

/-- What the term asks, without its negation. -/
def asks (term : Term) (summary : Summary) : Bool :=
  if term.isExistenceCheck then term.presentIn summary else term.holdsValueIn summary

/-- The term accepts a summary. -/
def accepts (term : Term) (summary : Summary) : Bool :=
  term.asks summary != term.negated

/-- The written form of a term. -/
def text (term : Term) : String :=
  (if term.negated then "-" else "") ++ term.key ++ ":" ++ term.value

end Term

end Guidebook.Query
