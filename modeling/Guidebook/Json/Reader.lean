import Guidebook.Json.Value
import Guidebook.Number.Word

/-!
# Reading JSON

One JSON value from a text.  The fields of an object come out in ascending order
of their keys, the last of several with one key; an integer beyond 64 bits and
the integer `-0` come out as floating-point numbers.  How many arrays and objects
stand one inside the other is limited.
-/

namespace Guidebook.Json

/-- The characters that may stand between two tokens. -/
def isSpace (c : Char) : Bool :=
  c == ' ' || c == '\n' || c == '\r' || c == '\t'

/-- The text after the space at its start. -/
def skipSpace (text : List Char) : List Char := text.dropWhile isSpace

/-- The value of a digit in base 16. -/
def hexDigit? (c : Char) : Option Nat :=
  if '0' ≤ c ∧ c ≤ '9' then some (c.toNat - 48)
  else if 'a' ≤ c ∧ c ≤ 'f' then some (c.toNat - 87)
  else if 'A' ≤ c ∧ c ≤ 'F' then some (c.toNat - 55)
  else none

/-- The number that four digits in base 16 write. -/
def hexQuad? : List Char → Option (Nat × List Char)
  | a :: b :: c :: d :: rest => do
      let a ← hexDigit? a
      let b ← hexDigit? b
      let c ← hexDigit? c
      let d ← hexDigit? d
      return (((a * 16 + b) * 16 + c) * 16 + d, rest)
  | _ => none

/-- The character that a one-letter escape stands for. -/
def simpleEscape? : Char → Option Char
  | '"' => some '"'
  | '\\' => some '\\'
  | '/' => some '/'
  | 'b' => some '\x08'
  | 'f' => some '\x0c'
  | 'n' => some '\n'
  | 'r' => some '\r'
  | 't' => some '\t'
  | _ => none

/-- The character that an escape by number stands for.  A code above `FFFF` is
written as two surrogates; one that stands alone is refused. -/
def numberedEscape? (text : List Char) : Option (Char × List Char) := do
  let (code, rest) ← hexQuad? text
  if 0xDC00 ≤ code ∧ code ≤ 0xDFFF then none
  else if 0xD800 ≤ code ∧ code ≤ 0xDBFF then
    match rest with
    | '\\' :: 'u' :: rest => do
        let (second, rest) ← hexQuad? rest
        if 0xDC00 ≤ second ∧ second ≤ 0xDFFF then
          return (Char.ofNat (0x10000 + (code - 0xD800) * 0x400 + (second - 0xDC00)), rest)
        else none
    | _ => none
  else return (Char.ofNat code, rest)

/-- The characters of a string up to its closing quote, put before `read`, which
is given backwards. -/
def readString (read : List Char) :
    (fuel : Nat) → List Char → Option (String × List Char)
  | 0, _ => none
  | fuel + 1, text =>
      match text with
      | [] => none
      | '"' :: rest => some (String.ofList read.reverse, rest)
      | '\\' :: 'u' :: rest => do
          let (c, rest) ← numberedEscape? rest
          readString (c :: read) fuel rest
      | '\\' :: c :: rest => do
          let c ← simpleEscape? c
          readString (c :: read) fuel rest
      | c :: rest => if c.val < 0x20 then none else readString (c :: read) fuel rest

/-- The digits at the start of a text. -/
def spanDigits (text : List Char) : List Char × List Char :=
  text.span Char.isDigit

/-- The number that decimal digits write. -/
def ofDigits (digits : List Char) : Nat :=
  digits.foldl (fun value digit => value * 10 + (digit.toNat - 48)) 0

/-- An integer, or the nearest floating-point number where 64 bits do not hold
it or where it is a negative zero. -/
def ofInteger (negative : Bool) (magnitude : Nat) : Json :=
  let value := if negative then -Int.ofNat magnitude else Int.ofNat magnitude
  if (negative && magnitude == 0) || !Word.holdsEither 64 value then
    .float (Binary64.ofDecimal negative magnitude 0)
  else .int value

/-- The exponent part of a number: its value and the text after it. -/
def readExponent? : List Char → Option (Int × List Char)
  | '-' :: rest =>
      match spanDigits rest with
      | ([], _) => none
      | (digits, rest) => some (-Int.ofNat (ofDigits digits), rest)
  | '+' :: rest =>
      match spanDigits rest with
      | ([], _) => none
      | (digits, rest) => some (Int.ofNat (ofDigits digits), rest)
  | text =>
      match spanDigits text with
      | ([], _) => none
      | (digits, rest) => some (Int.ofNat (ofDigits digits), rest)

/-- A number after its sign. -/
def readNumber? (negative : Bool) (text : List Char) : Option (Json × List Char) := do
  let (whole, rest) := spanDigits text
  guard (!whole.isEmpty)
  guard (whole.length == 1 || whole.head? != some '0')
  let (fraction, rest) ←
    match rest with
    | '.' :: rest =>
        match spanDigits rest with
        | ([], _) => none
        | (digits, rest) => some (some digits, rest)
    | rest => some (none, rest)
  let (exponent, rest) ←
    match rest with
    | 'e' :: rest | 'E' :: rest => do
        let (exponent, rest) ← readExponent? rest
        some (some exponent, rest)
    | rest => some (none, rest)
  match fraction, exponent with
  | none, none => return (ofInteger negative (ofDigits whole), rest)
  | fraction, exponent =>
      let digits := fraction.getD []
      let value := Binary64.ofDecimal negative (ofDigits (whole ++ digits))
        (exponent.getD 0 - Int.ofNat digits.length)
      guard value.isFinite
      return (.float value, rest)

/-- The text after a word, when it starts with the word. -/
def word? (word : String) (text : List Char) : Option (List Char) :=
  if word.toList.isPrefixOf text then some (text.drop word.length) else none

/-- The most arrays and objects that may stand one inside the other. -/
def levelLimit : Nat := 127

mutual

/-- A value of at most so many levels at the start of a text, and the text after it. -/
def readValue : (levels fuel : Nat) → List Char → Option (Json × List Char)
  | _, 0, _ => none
  | levels, fuel + 1, text =>
      match skipSpace text with
      | '"' :: rest => do
          let (value, rest) ← readString [] (rest.length + 1) rest
          return (.str value, rest)
      | '[' :: rest =>
          match levels, skipSpace rest with
          | 0, _ => none
          | _, ']' :: rest => some (.arr [], rest)
          | levels + 1, rest => do
              let (items, rest) ← readItems levels fuel rest
              return (.arr items, rest)
      | '\x7b' :: rest =>
          match levels, skipSpace rest with
          | 0, _ => none
          | _, '\x7d' :: rest => some (.obj [], rest)
          | levels + 1, rest => do
              let (fields, rest) ← readFields levels fuel rest
              return (.obj (Keyed.ofList fields), rest)
      | '-' :: rest => readNumber? true rest
      | 't' :: rest => (word? "rue" rest).map (Json.bool true, ·)
      | 'f' :: rest => (word? "alse" rest).map (Json.bool false, ·)
      | 'n' :: rest => (word? "ull" rest).map (Json.null, ·)
      | rest => readNumber? false rest

/-- The items of an array that is not empty, up to its closing bracket. -/
def readItems : (levels fuel : Nat) → List Char → Option (List Json × List Char)
  | _, 0, _ => none
  | levels, fuel + 1, text => do
      let (item, rest) ← readValue levels fuel text
      match skipSpace rest with
      | ']' :: rest => return ([item], rest)
      | ',' :: rest => do
          let (items, rest) ← readItems levels fuel rest
          return (item :: items, rest)
      | _ => none

/-- The fields of an object that is not empty, up to its closing brace. -/
def readFields :
    (levels fuel : Nat) → List Char → Option (List (String × Json) × List Char)
  | _, 0, _ => none
  | levels, fuel + 1, text =>
      match skipSpace text with
      | '"' :: rest => do
          let (key, rest) ← readString [] (rest.length + 1) rest
          match skipSpace rest with
          | ':' :: rest => do
              let (value, rest) ← readValue levels fuel rest
              match skipSpace rest with
              | '\x7d' :: rest => return ([(key, value)], rest)
              | ',' :: rest => do
                  let (fields, rest) ← readFields levels fuel rest
                  return ((key, value) :: fields, rest)
              | _ => none
          | _ => none
      | _ => none

end

/-- The value that a whole text writes, if it has at most so many levels. -/
def parseWithin? (levels : Nat) (text : String) : Option Json := do
  let chars := text.toList
  let (value, rest) ← readValue levels (2 * chars.length + 2) chars
  guard (skipSpace rest).isEmpty
  return value

/-- The value that a whole text writes. -/
def parse? (text : String) : Option Json := parseWithin? levelLimit text

end Guidebook.Json
