import Guidebook.Json.Reader
import Guidebook.Yaml.Cursor
import Guidebook.Yaml.Token

/-!
# Directives, tags and anchors

The tokens that describe a document or a node rather than hold it.  Each function
reads one token at a place and gives the place after it.
-/

namespace Guidebook.Yaml.Token

/-- A character of a tag; in a verbatim tag and in a directive, the signs of flow
sequences are characters of a tag too. -/
def isTagChar (verbatim : Bool) (c : Char) : Bool :=
  isNameChar c || ";/?:@&=+$.%!~*'()".toList.contains c ||
    (verbatim && (c == ',' || c == '[' || c == ']'))

/-- The byte that an escape in a tag writes. -/
def escapedByte? : List Char → Option (Nat × List Char)
  | '%' :: high :: low :: rest => do
      let high ← Json.hexDigit? high
      let low ← Json.hexDigit? low
      return (high * 16 + low, rest)
  | _ => none

/-- The number of bytes of a character, from its first byte. -/
def encodedWidth? (first : Nat) : Option Nat :=
  if first < 0x80 then some 1
  else if 0xC0 ≤ first ∧ first < 0xE0 then some 2
  else if 0xE0 ≤ first ∧ first < 0xF0 then some 3
  else if 0xF0 ≤ first ∧ first < 0xF8 then some 4
  else none

/-- Read the further bytes of an escaped character. -/
def escapedTail? : (count : Nat) → (code : Nat) → List Char → Option (Nat × List Char)
  | 0, code, text => some (code, text)
  | count + 1, code, text => do
      let (byte, rest) ← escapedByte? text
      if 0x80 ≤ byte ∧ byte < 0xC0 then escapedTail? count (code * 64 + (byte - 0x80)) rest
      else none

/-- The escaped character at the start of a text, and the text after it. -/
def escapedChar? (text : List Char) : Option (Char × List Char) := do
  let (first, rest) ← escapedByte? text
  let width ← encodedWidth? first
  let start := if width = 1 then first else first % Nat.pow 2 (7 - width)
  let (code, rest) ← escapedTail? (width - 1) start rest
  return (Char.ofNat code, rest)

/-- The characters of a tag at the start of a text, and the text after them. -/
def tagText? (verbatim : Bool) : (fuel : Nat) → List Char → Option (List Char × List Char)
  | 0, text => some ([], text)
  | _ + 1, [] => some ([], [])
  | fuel + 1, c :: rest =>
      if c = '%' then do
        let (c, rest) ← escapedChar? (c :: rest)
        let (text, rest) ← tagText? verbatim fuel rest
        return (c :: text, rest)
      else if isTagChar verbatim c then do
        let (text, rest) ← tagText? verbatim fuel rest
        return (c :: text, rest)
      else some ([], c :: rest)

/-- The characters of a tag at a place, and the place after them. -/
def takeTagText? (verbatim : Bool) (cursor : Cursor) : Option (List Char × Cursor) := do
  let (text, rest) ← tagText? verbatim cursor.rest.length cursor.rest
  return (text, cursor.skip (cursor.rest.length - rest.length))

/-- The name between the two marks of a handle, after its first mark: the name,
and whether the second mark is there. -/
def takeHandle (cursor : Cursor) : List Char × Bool × Cursor :=
  let name := cursor.rest.takeWhile isNameChar
  let cursor := cursor.skip name.length
  if cursor.rest.head? = some '!' then (name, true, cursor.skip 1) else (name, false, cursor)

/-- The written form of a handle. -/
def handleText (name : List Char) (closed : Bool) : String :=
  String.ofList ('!' :: name ++ if closed then ['!'] else [])

/-- A tag after its first mark. -/
def takeTag? (inFlow : Bool) (cursor : Cursor) : Option (Token × Cursor) := do
  let (handle, suffix, cursor) ←
    match cursor.rest with
    | '<' :: _ => do
        let (text, cursor) ← takeTagText? true (cursor.skip 1)
        guard (!text.isEmpty && cursor.rest.head? == some '>')
        some ("", text, cursor.skip 1)
    | _ => do
        let (name, closed, next) := takeHandle cursor
        if closed then
          let (text, next) ← takeTagText? false next
          guard !text.isEmpty
          some (handleText name true, text, next)
        else
          let (text, next) ← takeTagText? false next
          let suffix := name ++ text
          some (if suffix.isEmpty then ("", ['!'], next) else ("!", suffix, next))
  guard (endsWord cursor.rest || (inFlow && cursor.rest.head? == some ','))
  return (.tag handle (String.ofList suffix), cursor)

/-- The name of an anchor or of an alias after its first mark. -/
def takeName? (cursor : Cursor) : Option (String × Cursor) := do
  let name := cursor.rest.takeWhile isNameChar
  let cursor := cursor.skip name.length
  guard !name.isEmpty
  guard (endsWord cursor.rest || cursor.rest.head?.any "?:,]\x7d%@\x60".toList.contains)
  return (String.ofList name, cursor)

/-- A number of a version: one to nine digits. -/
def takeNumber? (cursor : Cursor) : Option (Nat × Cursor) :=
  let digits := cursor.rest.takeWhile Char.isDigit
  if digits.isEmpty || 9 < digits.length then none
  else some (Json.ofDigits digits, cursor.skip digits.length)

/-- A directive after its first mark, with the rest of its line. -/
def takeDirective? (cursor : Cursor) : Option (Token × Cursor) := do
  let name := cursor.rest.takeWhile isNameChar
  let cursor := cursor.skip name.length
  guard (endsWord cursor.rest)
  let cursor := cursor.skipWhile isGap
  if name = "YAML".toList then
    let (major, cursor) ← takeNumber? cursor
    guard (cursor.rest.head? == some '.')
    let (minor, cursor) ← takeNumber? (cursor.skip 1)
    return (.version major minor, ← cursor.skipLineEnd?)
  else if name = "TAG".toList then
    guard (cursor.rest.head? == some '!')
    let (name, closed, cursor) := takeHandle (cursor.skip 1)
    guard (closed || name.isEmpty)
    guard (cursor.rest.head?.any isGap)
    let (text, cursor) ← takeTagText? true (cursor.skipWhile isGap)
    guard (!text.isEmpty && endsWord cursor.rest)
    return (.tagHandle (handleText name closed) (String.ofList text), ← cursor.skipLineEnd?)
  else none

end Guidebook.Yaml.Token
