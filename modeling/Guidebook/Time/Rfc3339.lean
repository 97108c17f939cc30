import Guidebook.Text.Blank
import Guidebook.Time.Moment

/-!
# Moments in RFC 3339

A moment is written in universal time with `Z`, and with as many groups of three
fraction digits as it needs.  It is read with any offset, and with blanks around
the parts of the date and of the time.
-/

namespace Guidebook.Moment

/-- The digits of a number, with zeros in front up to a width. -/
def padded (width number : Nat) : List Char :=
  let digits := Nat.toDigits 10 number
  List.replicate (width - digits.length) '0' ++ digits

/-- A year: four digits, or a sign and at least four digits where it is not one
of the years 0 to 9999. -/
def yearText (year : Int) : List Char :=
  if year < 0 then '-' :: padded 4 year.natAbs
  else if 9999 < year then '+' :: padded 4 year.natAbs
  else padded 4 year.natAbs

/-- The date with its two hyphens. -/
def dateText (moment : Moment) : List Char :=
  yearText moment.year ++ '-' :: padded 2 moment.month ++ '-' :: padded 2 moment.day

/-- The time of the day with its two colons. -/
def timeText (moment : Moment) : List Char :=
  padded 2 moment.hour ++ ':' :: padded 2 moment.minute ++ ':' :: padded 2 moment.second

/-- The fraction of the second: nothing, or three, six or nine digits. -/
def fractionText (nanosecond : Nat) : List Char :=
  if nanosecond = 0 then []
  else if nanosecond % 1000000 = 0 then '.' :: padded 3 (nanosecond / 1000000)
  else if nanosecond % 1000 = 0 then '.' :: padded 6 (nanosecond / 1000)
  else '.' :: padded 9 nanosecond

/-- The written form of a moment. -/
def rfc3339 (moment : Moment) : String :=
  String.ofList
    (moment.dateText ++ 'T' :: moment.timeText ++ fractionText moment.subsecond ++ ['Z'])

/-- The date and the time of the day, without the fraction. -/
def plain (moment : Moment) : String :=
  String.ofList (moment.dateText ++ ' ' :: moment.timeText)

/-- The number that decimal digits write. -/
def ofDigits (digits : List Char) : Nat :=
  digits.foldl (fun value digit => value * 10 + (digit.toNat - 48)) 0

/-- A number of one to `most` digits, after blanks. -/
def readNumber? (most : Nat) (text : List Char) : Option (Nat × List Char) :=
  let text := Text.trimStart text
  let digits := (text.take most).takeWhile Char.isDigit
  if digits.isEmpty then none else some (ofDigits digits, text.drop digits.length)

/-- A year: up to four digits, or any number of digits after a sign. -/
def readYear? (text : List Char) : Option (Int × List Char) :=
  let number? (text : List Char) :=
    let digits := text.takeWhile Char.isDigit
    if digits.isEmpty then none else some (ofDigits digits, text.drop digits.length)
  match Text.trimStart text with
  | '-' :: rest => (number? rest).map fun (year, rest) => (-Int.ofNat year, rest)
  | '+' :: rest => (number? rest).map fun (year, rest) => (Int.ofNat year, rest)
  | text => (readNumber? 4 text).map fun (year, rest) => (Int.ofNat year, rest)

/-- A given character, after blanks. -/
def readMark? (mark : Char) (text : List Char) : Option (List Char) :=
  match Text.trimStart text with
  | c :: rest => if c = mark then some rest else none
  | [] => none

/-- The nanoseconds of an optional fraction; digits after the ninth are read and
have no value. -/
def readFraction? : List Char → Option (Nat × List Char)
  | '.' :: rest =>
      let digits := rest.takeWhile Char.isDigit
      if digits.isEmpty then none
      else
        let kept := digits.take 9
        some (ofDigits kept * Nat.pow 10 (9 - kept.length), rest.drop digits.length)
  | text => some (0, text)

/-- The seconds of an offset of hours and minutes after its sign. -/
def readHoursMinutes? (text : List Char) : Option (Nat × List Char) :=
  match text with
  | h :: h' :: rest =>
      match rest.dropWhile fun c => c == ':' || Text.isBlank c with
      | m :: m' :: rest =>
          if h.isDigit && h'.isDigit && m.isDigit && m'.isDigit && m < '6' then
            some (ofDigits [h, h'] * 3600 + ofDigits [m, m'] * 60, rest)
          else none
      | _ => none
  | _ => none

/-- The seconds by which local time is ahead of universal time. -/
def readOffset? : List Char → Option (Int × List Char)
  | 'Z' :: rest | 'z' :: rest => some (0, rest)
  | '+' :: rest =>
      (readHoursMinutes? rest).map fun (seconds, rest) => (Int.ofNat seconds, rest)
  | '-' :: rest | '−' :: rest =>
      (readHoursMinutes? rest).map fun (seconds, rest) => (-Int.ofNat seconds, rest)
  | u :: t :: c :: rest =>
      if u.toUpper = 'U' ∧ t.toUpper = 'T' ∧ c.toUpper = 'C' then some (0, rest) else none
  | _ => none

/-- The moment that a text writes. -/
def parse? (text : String) : Option Moment := do
  let (year, rest) ← readYear? text.toList
  let rest ← readMark? '-' rest
  let (month, rest) ← readNumber? 2 rest
  let rest ← readMark? '-' rest
  let (day, rest) ← readNumber? 2 rest
  let rest ←
    match rest with
    | 'T' :: rest | 't' :: rest | ' ' :: rest => some rest
    | _ => none
  let (hour, rest) ← readNumber? 2 rest
  let rest ← readMark? ':' rest
  let (minute, rest) ← readNumber? 2 rest
  let rest ← readMark? ':' rest
  let (second, rest) ← readNumber? 2 rest
  let (nanosecond, rest) ← readFraction? rest
  let (offset, rest) ← readOffset? (Text.trimStart rest)
  guard (Text.allBlank rest && hour < 24 && minute < 60 && second ≤ 60 &&
    offset.natAbs < 86400)
  let start := hour * 3600 + minute * 60
  if second = 60 then
    ofLocal? year month day (start + 59) (nanosecond + 1000000000) offset
  else ofLocal? year month day (start + second) nanosecond offset

end Guidebook.Moment
