import Guidebook.Toml.Number
import Guidebook.Toml.Table
import Guidebook.Toml.Text

/-!
# Reading TOML

A text is a sequence of lines: a key with its value, the header of a table or of a
further table of an array, or nothing but a comment.
-/

namespace Guidebook.Toml

mutual

/-- A value.  Arrays and inline tables may be nested to some depth. -/
def takeValue? : (depth fuel : Nat) → List Char → Option (Value × List Char)
  | _, 0, _ => none
  | depth, fuel + 1, text =>
      match text with
      | [] => none
      | c :: rest =>
          if c = '"' ∨ c = '\'' then
            (takeString? text).map fun (value, rest) => (.text (String.ofList value), rest)
          else if c = '[' then
            if depth = 0 then none
            else
              match skipLines (rest.length + 1) rest with
              | ']' :: rest => some (.array [], rest)
              | rest =>
                  (takeItems? (depth - 1) fuel rest).map fun (items, rest) => (.array items, rest)
          else if c = '\x7b' then
            if depth = 0 then none
            else
              match skipSpaces rest with
              | '\x7d' :: rest => some (.table [], rest)
              | rest => do
                  let (entries, rest) ← takeInline? (depth - 1) fuel [] rest
                  return (.table (Item.toFields entries), rest)
          else if c = 't' then (Json.word? "rue" rest).map (Value.bool true, ·)
          else if c = 'f' then (Json.word? "alse" rest).map (Value.bool false, ·)
          else
            match skipDateTime? text with
            | some rest =>
                let width := text.length - rest.length
                some (.time (String.ofList (text.take width)), rest)
            | none =>
                (takeNumber? text).map fun (number, rest) =>
                  match number with
                  | .int value => (.int value, rest)
                  | .float value => (.float value, rest)

/-- The items of an array that is not empty, up to its closing bracket. -/
def takeItems? : (depth fuel : Nat) → List Char → Option (List Value × List Char)
  | _, 0, _ => none
  | depth, fuel + 1, text => do
      let (item, rest) ← takeValue? depth fuel text
      match skipLines (rest.length + 1) rest with
      | ']' :: rest => return ([item], rest)
      | ',' :: rest =>
          match skipLines (rest.length + 1) rest with
          | ']' :: rest => return ([item], rest)
          | rest => do
              let (items, rest) ← takeItems? depth fuel rest
              return (item :: items, rest)
      | _ => none

/-- The entries of an inline table that is not empty, up to its closing brace. -/
def takeInline? : (depth fuel : Nat) → Entries → List Char → Option (Entries × List Char)
  | _, 0, _, _ => none
  | depth, fuel + 1, entries, text => do
      let (key, rest) ← takeKey? text
      let (value, rest) ← takeValue? depth fuel (skipSpaces (← takeMark? '=' rest))
      let entries ← entries.addDotted? key value
      match skipSpaces rest with
      | '\x7d' :: rest => return (entries, rest)
      | ',' :: rest => takeInline? depth fuel entries rest
      | _ => none

end

/-- The entries of the root while a text is read, and the path of the table that its
lines add to. -/
structure Reading where
  root : Entries := []
  current : List String := []

/-- Read a line with a key and its value. -/
def readEntry? (reading : Reading) (text : List Char) : Option (Reading × List Char) := do
  let (key, rest) ← takeKey? text
  let rest := skipSpaces (← takeMark? '=' rest)
  let (value, rest) ← takeValue? (deepest - 1) (rest.length + 1) rest
  let rest ← endLine? rest
  let root ← reading.root.atHeader? reading.current (·.addDotted? key value)
  return ({ reading with root }, rest)

/-- Read the header of a table, or of a further table of an array. -/
def readHeader? (ofArray : Bool) (reading : Reading) (text : List Char) :
    Option (Reading × List Char) := do
  let (key, rest) ← takeKey? text
  let rest ← takeMark? ']' rest
  let rest ← if ofArray then takeMark? ']' rest else some rest
  let rest ← endLine? rest
  let last ← key.getLast?
  let root ← reading.root.atHeader? key.dropLast
    (if ofArray then Entries.openElement? last else Entries.openTable? last)
  return (⟨root, key⟩, rest)

/-- Read the lines of a text. -/
def readLines? : (fuel : Nat) → Reading → List Char → Option Entries
  | 0, _, _ => none
  | fuel + 1, reading, text =>
      match skipSpaces text with
      | [] => some reading.root
      | '[' :: '[' :: rest => do
          let (reading, rest) ← readHeader? true reading rest
          readLines? fuel reading rest
      | '[' :: rest => do
          let (reading, rest) ← readHeader? false reading rest
          readLines? fuel reading rest
      | c :: rest =>
          if c = '#' ∨ c = '\n' ∨ c = '\r' then do
            readLines? fuel reading (← endLine? (c :: rest))
          else do
            let (reading, rest) ← readEntry? reading (c :: rest)
            readLines? fuel reading rest

/-- The text without a byte order mark at its start. -/
def dropMark : List Char → List Char
  | '\ufeff' :: rest => rest
  | text => text

/-- The table that a whole text writes. -/
def Value.parse? (text : String) : Option Value :=
  let text := dropMark text.toList
  (readLines? (text.length + 1) {} text).map fun entries => .table (Item.toFields entries)

end Guidebook.Toml
