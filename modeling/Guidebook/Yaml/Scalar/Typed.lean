import Guidebook.Number.Text
import Guidebook.Number.Word
import Guidebook.Yaml.Token
import Guidebook.Yaml.Value

/-!
# Typed scalars

The type of a scalar follows from its tag, and for a plain scalar without a tag
from its text: null, a truth value, a number, or else a text.  A number with
leading zeros is a text.  An integer of more than 64 bits is refused as long as
128 bits hold it; beyond that it is a floating-point number.
-/

namespace Guidebook.Yaml.Scalar

/-- The text means null. -/
def isNull (text : String) : Bool :=
  text == "null" || text == "Null" || text == "NULL" || text == "~"

/-- The truth value that a text writes. -/
def bool? (text : String) : Option Bool :=
  if text == "true" || text == "True" || text == "TRUE" then some true
  else if text == "false" || text == "False" || text == "FALSE" then some false
  else none

/-- The text without a plus sign at its start. -/
def dropPlus : List Char → List Char
  | '+' :: rest => rest
  | text => text

/-- The text starts with a sign. -/
def hasSign (text : List Char) : Bool :=
  match text with
  | c :: _ => c == '+' || c == '-'
  | [] => false

/-- More than one digit, of which the first is a zero, with an optional sign. -/
def isPadded (text : List Char) : Bool :=
  match if hasSign text then text.drop 1 else text with
  | '0' :: digit :: rest => (digit :: rest).all Char.isDigit
  | _ => false

/-- The value of a digit in a base up to sixteen. -/
def digit? (base : Nat) (c : Char) : Option Nat := do
  let digit ← Json.hexDigit? c
  if digit < base then return digit else none

/-- The number that digits in a base write; there has to be one at least. -/
def natural? (base : Nat) : List Char → Option Nat
  | [] => none
  | digits => digits.foldlM (fun value c => (digit? base c).map (value * base + ·)) 0

/-- The number without a sign that a text writes, in base 16, 8 or 2 after a mark
of the base, or else in base 10. -/
def magnitude? : List Char → Option Nat
  | '0' :: 'x' :: digits => natural? 16 digits
  | '0' :: 'o' :: digits => natural? 8 digits
  | '0' :: 'b' :: digits => natural? 2 digits
  | digits => natural? 10 digits

/-- The number without a sign that a text writes, when 64 bits hold it. -/
def word? (text : List Char) : Option Nat := do
  guard (!isPadded text)
  let value ← magnitude? (dropPlus text)
  guard (Word.holds 64 value)
  return value

/-- The integer that a text writes, of any size. -/
def integer? (text : List Char) : Option Int :=
  if isPadded text then none
  else
    match text with
    | '-' :: rest => (magnitude? rest).map fun value => -Int.ofNat value
    | text => (magnitude? (dropPlus text)).map Int.ofNat

/-- How large an integer is. -/
inductive Size where
  | word
  | doubleWord
  | larger
  deriving DecidableEq, Repr

/-- The size of an integer; negative ones have a sign bit. -/
def sizeOf (value : Int) : Size :=
  if Word.holdsEither 64 value then .word
  else if Word.holdsEither 128 value then .doubleWord
  else .larger

/-- The floating-point number that a text writes; an infinity and what is no
number have words of their own. -/
def float? (text : List Char) : Option Binary64 :=
  let word := String.ofList text
  let positive := String.ofList (dropPlus text)
  if text.head? = some '+' ∧ hasSign (dropPlus text) then none
  else if positive == ".inf" || positive == ".Inf" || positive == ".INF" then
    some (Binary64.infinity false)
  else if word == "-.inf" || word == "-.Inf" || word == "-.INF" then
    some (Binary64.infinity true)
  else if word == ".nan" || word == ".NaN" || word == ".NAN" then some Binary64.nan
  else
    match Binary64.ofText? (dropPlus text) with
    | some value => if value.isFinite then some value else none
    | none => none

/-- The value of a plain scalar without a tag. -/
def ofPlain? (text : String) : Option Value :=
  let chars := text.toList
  if text.isEmpty || isNull text then some .null
  else
    match bool? text with
    | some value => some (.bool value)
    | none =>
        let integer := integer? chars
        match integer, integer.map sizeOf with
        | some value, some .word => some (.int value)
        | some _, some .doubleWord => none
        | _, _ =>
            match if isPadded chars then none else float? chars with
            | some value => some (.float value)
            | none => some (.text text)

/-- The value of a scalar with a tag. -/
def ofTagged? (tag text : String) : Option Value :=
  if tag = "tag:yaml.org,2002:bool" then (bool? text).map .bool
  else if tag = "tag:yaml.org,2002:int" then
    match integer? text.toList with
    | some value => if sizeOf value = .word then some (.int value) else none
    | none => none
  else if tag = "tag:yaml.org,2002:float" then (float? text.toList).map .float
  else if tag = "tag:yaml.org,2002:null" then if isNull text then some .null else none
  else some (.text text)

/-- The value of a scalar. -/
def value? (tag : Option String) (text : String) (style : Style) : Option Value :=
  match tag with
  | some tag => ofTagged? tag text
  | none => if style = .plain then ofPlain? text else some (.text text)

end Guidebook.Yaml.Scalar
