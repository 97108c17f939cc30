import Guidebook.Json.Reader
import Guidebook.Number.Binary64

/-!
# Reading decimal numbers

A decimal is digits with an optional point among, before or after them, and an
optional exponent.  It is read as the nearest binary number.
-/

namespace Guidebook.Binary64

/-- The digits after a point, when a point is there, and the text after them. -/
def spanFraction : List Char → List Char × List Char
  | '.' :: rest => Json.spanDigits rest
  | text => ([], text)

/-- The exponent that is the whole rest of a number; nothing stands for zero. -/
def wholeExponent? : List Char → Option Int
  | [] => some 0
  | c :: rest =>
      if c = 'e' ∨ c = 'E' then
        match Json.readExponent? rest with
        | some (exponent, []) => some exponent
        | _ => none
      else none

/-- The number that a text without a sign writes. -/
def ofUnsignedText? (negative : Bool) (text : List Char) : Option Binary64 := do
  let (whole, rest) := Json.spanDigits text
  let (fraction, rest) := spanFraction rest
  guard !(whole.isEmpty && fraction.isEmpty)
  let exponent ← wholeExponent? rest
  return ofDecimal negative (Json.ofDigits (whole ++ fraction))
    (exponent - Int.ofNat fraction.length)

/-- The number that a text with an optional minus sign writes. -/
def ofText? : List Char → Option Binary64
  | '-' :: rest => ofUnsignedText? true rest
  | text => ofUnsignedText? false text

end Guidebook.Binary64
