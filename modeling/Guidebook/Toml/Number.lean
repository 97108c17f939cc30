import Guidebook.Number.Text
import Guidebook.Time.Moment
import Guidebook.Yaml.Scalar.Typed

/-!
# Numbers, dates and times of TOML

An underscore may stand between two digits of a number.  An integer has 64 bits.
A date has to exist, and a time of the day may be that of a leap second.
-/

namespace Guidebook.Toml

/-- Digits with underscores between them: the digits without the underscores, and
the text after them. -/
def takeDigits? ( isDigit : Char → Bool) : List Char → Option (List Char × List Char)
  | [] => none
  | c :: rest => if isDigit c then some (more c rest) else none
where
  more (first : Char) : List Char → List Char × List Char
    | [] => ([first], [])
    | '_' :: d :: rest =>
        if isDigit d then
          let (digits, rest) := more d rest
          (first :: digits, rest)
        else ([first], '_' :: d :: rest)
    | d :: rest =>
        if isDigit d then
          let (digits, rest) := more d rest
          (first :: digits, rest)
        else ([first], d :: rest)

/-- Decimal digits without a leading zero. -/
def takeDecimal? : List Char → Option (List Char × List Char)
  | '0' :: rest => some (['0'], rest)
  | text => takeDigits? Char.isDigit text

/-- The sign at the start of a text, and the text after it. -/
def takeSign : List Char → Bool × List Char
  | '-' :: rest => (true, rest)
  | '+' :: rest => (false, rest)
  | text => (false, text)

/-- The fraction after a point, when there is a point. -/
def takeFraction? : List Char → Option (Option (List Char) × List Char)
  | '.' :: rest => (takeDigits? Char.isDigit rest).map fun (digits, rest) => (some digits, rest)
  | text => some (none, text)

/-- The exponent after its mark, when there is a mark. -/
def takeExponent? : List Char → Option (Option Int × List Char)
  | c :: rest =>
      if c = 'e' ∨ c = 'E' then do
        let (negative, rest) := takeSign rest
        let (digits, rest) ← takeDigits? Char.isDigit rest
        let value := Int.ofNat (Json.ofDigits digits)
        return (some (if negative then -value else value), rest)
      else some (none, c :: rest)
  | [] => some (none, [])

/-- An integer that 64 bits hold. -/
def wordOf? (value : Int) : Option Int :=
  if Word.holdsSigned 64 value then some value else none

/-- A number: an integer or a floating-point number. -/
inductive Number where
  | int (value : Int)
  | float (value : Binary64)
  deriving Repr

/-- An integer in another base than ten, after the mark of the base. -/
def takeBased? (base : Nat) (text : List Char) : Option (Number × List Char) := do
  let (digits, rest) ← takeDigits? (fun c => (Yaml.Scalar.digit? base c).isSome) text
  let value ← Yaml.Scalar.natural? base digits
  return (.int (← wordOf? (Int.ofNat value)), rest)

/-- A decimal number.  A floating-point number may not be too large, but for a
negative one. -/
def takeDecimalNumber? (text : List Char) : Option (Number × List Char) := do
  let (negative, rest) := takeSign text
  let (whole, rest) ← takeDecimal? rest
  let (fraction, rest) ← takeFraction? rest
  let (exponent, rest) ← takeExponent? rest
  match fraction, exponent with
  | none, none =>
      let value := Int.ofNat (Json.ofDigits whole)
      return (.int (← wordOf? (if negative then -value else value)), rest)
  | fraction, exponent =>
      let digits := fraction.getD []
      let value := Binary64.ofDecimal negative (Json.ofDigits (whole ++ digits))
        (exponent.getD 0 - Int.ofNat digits.length)
      guard (value.isFinite || negative)
      return (.float value, rest)

/-- A number, which may be infinite or none at all. -/
def takeNumber? (text : List Char) : Option (Number × List Char) :=
  let (negative, unsigned) := takeSign text
  match text, unsigned with
  | '0' :: 'x' :: rest, _ => takeBased? 16 rest
  | '0' :: 'o' :: rest, _ => takeBased? 8 rest
  | '0' :: 'b' :: rest, _ => takeBased? 2 rest
  | _, 'i' :: 'n' :: 'f' :: rest => some (.float (Binary64.infinity negative), rest)
  | _, 'n' :: 'a' :: 'n' :: rest => some (.float Binary64.nan, rest)
  | _, _ => takeDecimalNumber? text

/-- A number of exactly `count` digits. -/
def takeFixed? (count : Nat) (text : List Char) : Option (Nat × List Char) :=
  let digits := text.take count
  if digits.length = count ∧ digits.all Char.isDigit then
    some (Json.ofDigits digits, text.drop count)
  else none

/-- The text after a character, when it starts with it. -/
def takeMark? (mark : Char) : List Char → Option (List Char)
  | c :: rest => if c = mark then some rest else none
  | [] => none

/-- The text after a date. -/
def skipDate? (text : List Char) : Option (List Char) := do
  let (year, rest) ← takeFixed? 4 text
  let (month, rest) ← takeFixed? 2 (← takeMark? '-' rest)
  let (day, rest) ← takeFixed? 2 (← takeMark? '-' rest)
  guard (1 ≤ month ∧ month ≤ 12 ∧ 1 ≤ day ∧ day ≤ Calendar.daysIn (Int.ofNat year) month)
  return rest

/-- The text after a fraction of a second; a point without digits is no part of
it. -/
def skipFraction : List Char → List Char
  | '.' :: rest =>
      match rest.span Char.isDigit with
      | ([], _) => '.' :: rest
      | (_, rest) => rest
  | text => text

/-- The text after a time of the day. -/
def skipTime? (text : List Char) : Option (List Char) := do
  let (hour, rest) ← takeFixed? 2 text
  let (minute, rest) ← takeFixed? 2 (← takeMark? ':' rest)
  let (second, rest) ← takeFixed? 2 (← takeMark? ':' rest)
  guard (hour ≤ 23 ∧ minute ≤ 59 ∧ second ≤ 60)
  return skipFraction rest

/-- The text after an offset, if there is one; one that is begun has to be whole. -/
def skipOffset? : List Char → Option (List Char)
  | c :: rest =>
      if c = 'Z' ∨ c = 'z' then some rest
      else if c = '+' ∨ c = '-' then do
        let (hour, rest) ← takeFixed? 2 rest
        let (minute, rest) ← takeFixed? 2 (← takeMark? ':' rest)
        guard (hour ≤ 23 ∧ minute ≤ 59)
        return rest
      else some (c :: rest)
  | [] => some []

/-- The text after a date with an optional time, or after a time. -/
def skipDateTime? (text : List Char) : Option (List Char) :=
  match skipDate? text with
  | some (c :: rest) =>
      if c = 'T' ∨ c = 't' ∨ c = ' ' then
        match skipTime? rest with
        | some rest => skipOffset? rest
        | none => some (c :: rest)
      else some (c :: rest)
  | some [] => some []
  | none => skipTime? text

end Guidebook.Toml
