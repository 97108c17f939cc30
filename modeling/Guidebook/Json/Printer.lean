import Guidebook.Json.Value
import Guidebook.Number.Shortest

/-!
# Printing JSON

The two written forms of a JSON value: the compact one, with no space, and the
indented one, with two spaces per level.  Only the quote, the backslash and the
control characters of a string are escaped.
-/

namespace Guidebook.Json

/-- The two digits of a number below 256 in base 16. -/
def hexByte (code : Nat) : List Char :=
  [Nat.digitChar (code / 16), Nat.digitChar (code % 16)]

/-- One character of a string as it is written. -/
def escapeChar (c : Char) : List Char :=
  match c with
  | '"' => ['\\', '"']
  | '\\' => ['\\', '\\']
  | '\n' => ['\\', 'n']
  | '\r' => ['\\', 'r']
  | '\t' => ['\\', 't']
  | '\x08' => ['\\', 'b']
  | '\x0c' => ['\\', 'f']
  | c => if c.val < 0x20 then ['\\', 'u', '0', '0'] ++ hexByte c.toNat else [c]

/-- A string as it is written, with its quotes. -/
def quote (text : String) : String :=
  String.ofList ('"' :: text.toList.flatMap escapeChar ++ ['"'])

/-- How numbers with a fractional part or a large magnitude are written. -/
structure FloatFormat where
  /-- The first digit stands at most this many places before the point. -/
  maxPlace : Int
  /-- The first digit stands at most this many places after the point. -/
  minPlace : Int
  /-- An exponent has this many digits at least. -/
  exponentWidth : Nat

/-- A number is written positionally when its first digit is one of the sixteen
places before the point or one of the five places after it, and an exponent has
two digits at least. -/
def floatFormat : FloatFormat := ⟨16, -5, 2⟩

/-- An exponent, always with its sign. -/
def exponentText (format : FloatFormat) (exponent : Int) : List Char :=
  let digits := Nat.toDigits 10 exponent.natAbs
  'e' :: (if exponent < 0 then '-' else '+') ::
    List.replicate (format.exponentWidth - digits.length) '0' ++ digits

/-- The digits of a decimal with the point, or with an exponent, put in.  A whole
number keeps `.0`. -/
def floatText (format : FloatFormat) (decimal : Binary64.Decimal) : List Char :=
  let digits := Nat.toDigits 10 decimal.digits
  let count := Int.ofNat digits.length
  let place := count + decimal.exponent
  if 0 ≤ decimal.exponent ∧ place ≤ format.maxPlace then
    digits ++ List.replicate decimal.exponent.toNat '0' ++ ['.', '0']
  else if 0 < place ∧ place ≤ format.maxPlace then
    digits.take place.toNat ++ '.' :: digits.drop place.toNat
  else if format.minPlace < place ∧ place ≤ 0 then
    '0' :: '.' :: List.replicate (-place).toNat '0' ++ digits
  else
    let exponent := exponentText format (place - 1)
    match digits with
    | [digit] => digit :: exponent
    | [] => exponent
    | digit :: others => digit :: '.' :: others ++ exponent

/-- A floating-point number as it is written; what is not finite is `null`. -/
def float64Text (x : Binary64) : String :=
  if x.isFinite then
    let sign := if x.isNegative then ['-'] else []
    let digits :=
      if x.magnitude = 0 then ['0', '.', '0'] else floatText floatFormat x.shortest
    String.ofList (sign ++ digits)
  else "null"

mutual

/-- The compact form. -/
def compact : Json → String
  | .null => "null"
  | .bool value => if value then "true" else "false"
  | .int value => toString value
  | .float value => float64Text value
  | .str value => quote value
  | .arr items => "[" ++ String.intercalate "," (compactItems items) ++ "]"
  | .obj fields => "\x7b" ++ String.intercalate "," (compactFields fields) ++ "\x7d"

/-- The compact forms of the items of an array. -/
def compactItems : List Json → List String
  | [] => []
  | item :: rest => compact item :: compactItems rest

/-- The compact forms of the fields of an object. -/
def compactFields : List (String × Json) → List String
  | [] => []
  | (key, value) :: rest => (quote key ++ ":" ++ compact value) :: compactFields rest

end

/-- A line break and the indentation of a level. -/
def newLine (level : Nat) : String :=
  "\n" ++ String.ofList (List.replicate (2 * level) ' ')

/-- Enclose written parts, each on a line of its own; no parts leave no line. -/
def enclose (opening closing : String) (level : Nat) (parts : List String) : String :=
  match parts with
  | [] => opening ++ closing
  | parts =>
      opening ++ newLine (level + 1) ++
        String.intercalate ("," ++ newLine (level + 1)) parts ++ newLine level ++ closing

mutual

/-- The indented form at a level. -/
def indented (level : Nat) : Json → String
  | .arr items => enclose "[" "]" level (indentedItems (level + 1) items)
  | .obj fields => enclose "\x7b" "\x7d" level (indentedFields (level + 1) fields)
  | .null => "null"
  | .bool value => if value then "true" else "false"
  | .int value => toString value
  | .float value => float64Text value
  | .str value => quote value

/-- The indented forms of the items of an array. -/
def indentedItems (level : Nat) : List Json → List String
  | [] => []
  | item :: rest => indented level item :: indentedItems level rest

/-- The indented forms of the fields of an object. -/
def indentedFields (level : Nat) : List (String × Json) → List String
  | [] => []
  | (key, value) :: rest =>
      (quote key ++ ": " ++ indented level value) :: indentedFields level rest

end

/-- The indented form. -/
def pretty (value : Json) : String := indented 0 value

end Guidebook.Json
