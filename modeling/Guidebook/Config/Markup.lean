/-!
# Notations of a configuration

A configuration is read from values of several notations in one way.  Each notation
says how its values are read as texts, numbers, lists and records.  Reading counts
the steps by which a notation follows references, because some notation bounds
them; it fails without a reason.
-/

namespace Guidebook

/-- Reading, with a count of references that have been followed. -/
abbrev Reading := StateT Nat Option

/-- A value whose type is decided only after it was read. -/
inductive Loose where
  | text (value : String)
  | truth (value : Bool)
  | number (value : Nat)
  | record (fields : List (Loose × Loose))
  | other
  deriving Repr, Inhabited

/-- The fields of a record: named, or by their places. -/
inductive Fields (ν : Type) where
  | named (fields : List (String × ν))
  | placed (values : List ν)

/-- A notation for configurations. -/
class Markup (ν : Type) where
  /-- The text that a value is. -/
  text : ν → Reading String
  /-- The number that a value is. -/
  number : ν → Reading Nat
  /-- The items of a list. -/
  items : ν → Reading (List ν)
  /-- A value that may be absent. -/
  optional : ν → Reading (Option ν)
  /-- The fields of a record of at most `size` fields. -/
  fields : (size : Nat) → ν → Reading (Fields ν)
  /-- A value of any type. -/
  loose : ν → Reading Loose

namespace Loose

/-- The text that a value is. -/
def text? : Loose → Option String
  | .text value => some value
  | _ => none

/-- The truth value that a value is. -/
def truth? : Loose → Option Bool
  | .truth value => some value
  | _ => none

/-- The texts by name that a record is. -/
def texts? : Loose → Option (List (String × String))
  | .record fields => fields.mapM fun (name, value) => do return (← name.text?, ← value.text?)
  | _ => none

end Loose

end Guidebook
