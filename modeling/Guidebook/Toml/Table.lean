import Guidebook.Toml.Value

/-!
# Tables of a TOML text

The tables of a text grow with its lines.  A table remembers how it came about: a
header opens a table once; a table that is only implied by the header of a table
in it may still be opened; a table that dotted keys made grows with further
dotted keys only.
-/

namespace Guidebook.Toml

/-- How a table came about. -/
inductive Origin where
  /-- Its own header. -/
  | header
  /-- The header of a table in it. -/
  | implied
  /-- Dotted keys. -/
  | dotted
  deriving DecidableEq, Repr

/-- What a key of a table holds while the text is read. -/
inductive Item where
  | value (value : Value)
  | table (origin : Origin) (entries : List (String × Item))
  /-- An array of tables, each opened by a header, the last one first. -/
  | tables (elements : List (List (String × Item)))
  deriving Repr, Inhabited

/-- The entries of a table, in order. -/
abbrev Entries := List (String × Item)

namespace Entries

/-- Put an item under a key, where the key stands or else at the end. -/
def put (key : String) (item : Item) : Entries → Entries
  | [] => [(key, item)]
  | (other, old) :: rest =>
      if key = other then (key, item) :: rest else (other, old) :: put key item rest

/-- Add a value under a new key. -/
def add? (key : String) (value : Value) (entries : Entries) : Option Entries :=
  match entries.lookup key with
  | none => some (entries ++ [(key, .value value)])
  | some _ => none

/-- Change the table at the end of a path of headers; of an array the last table
counts.  Tables that are not there yet are implied. -/
def atHeader? : (path : List String) → (Entries → Option Entries) → Entries → Option Entries
  | [], change, entries => change entries
  | key :: path, change, entries =>
      match entries.lookup key with
      | none => do
          let inner ← atHeader? path change []
          return put key (.table .implied inner) entries
      | some (.table origin inner) => do
          let inner ← atHeader? path change inner
          return put key (.table origin inner) entries
      | some (.tables (last :: others)) => do
          let last ← atHeader? path change last
          return put key (.tables (last :: others)) entries
      | some _ => none

/-- Change the table at the end of a path of dotted keys.  The tables on the way
may not have a header of their own, and the last one has to be made by dotted
keys. -/
def atDotted? : (path : List String) → (Entries → Option Entries) → Entries → Option Entries
  | [], change, entries => change entries
  | key :: path, change, entries =>
      match entries.lookup key with
      | none => do
          let inner ← atDotted? path change []
          return put key (.table .dotted inner) entries
      | some (.table origin inner) =>
          if origin = .header ∨ (path = [] ∧ origin ≠ .dotted) then none
          else do
            let inner ← atDotted? path change inner
            return put key (.table origin inner) entries
      | some (.tables (last :: others)) =>
          if path = [] then none
          else do
            let last ← atDotted? path change last
            return put key (.tables (last :: others)) entries
      | some _ => none

/-- Add a value under a dotted key. -/
def addDotted? (key : List String) (value : Value) (entries : Entries) : Option Entries :=
  match key.getLast? with
  | none => none
  | some last => atDotted? key.dropLast (add? last value) entries

/-- Open a table by its header. -/
def openTable? (key : String) (entries : Entries) : Option Entries :=
  match entries.lookup key with
  | none => some (put key (.table .header []) entries)
  | some (.table .implied inner) => some (put key (.table .header inner) entries)
  | some _ => none

/-- Open a further table of an array by its header. -/
def openElement? (key : String) (entries : Entries) : Option Entries :=
  match entries.lookup key with
  | none => some (put key (.tables [[]]) entries)
  | some (.tables elements) => some (put key (.tables ([] :: elements)) entries)
  | some _ => none

end Entries

mutual

/-- What an item means when the text is read. -/
def Item.toValue : Item → Value
  | .value content => content
  | .table _ entries => .table (Item.toFields entries)
  | .tables elements => .array (Item.toTables elements).reverse

/-- What some entries mean. -/
def Item.toFields : List (String × Item) → List (String × Value)
  | [] => []
  | (key, item) :: rest => (key, Item.toValue item) :: Item.toFields rest

/-- What some tables mean. -/
def Item.toTables : List (List (String × Item)) → List Value
  | [] => []
  | entries :: rest => .table (Item.toFields entries) :: Item.toTables rest

end

end Guidebook.Toml
