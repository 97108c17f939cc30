import Guidebook.Json.Reader
import Guidebook.Yaml.Cursor

/-!
# Quoted scalars

In single quotes only the quote itself is special, and is written twice.  In
double quotes a backslash starts an escape.  In both, line breaks are folded.
-/

namespace Guidebook.Yaml.Quoted

/-- The character of an escape of one letter. -/
def letterEscape? : Char → Option Char
  | '0' => some '\x00'
  | 'a' => some '\x07'
  | 'b' => some '\x08'
  | 't' | '\t' => some '\t'
  | 'n' => some '\n'
  | 'v' => some '\x0b'
  | 'f' => some '\x0c'
  | 'r' => some '\r'
  | 'e' => some '\x1b'
  | ' ' => some ' '
  | '"' => some '"'
  | '/' => some '/'
  | '\\' => some '\\'
  | 'N' => some '\x85'
  | '_' => some '\xa0'
  | 'L' => some '\u2028'
  | 'P' => some '\u2029'
  | _ => none

/-- The number of digits of an escape by number. -/
def digitCount? : Char → Option Nat
  | 'x' => some 2
  | 'u' => some 4
  | 'U' => some 8
  | _ => none

/-- The number that digits in base 16 write. -/
def ofHexDigits? (digits : List Char) : Option Nat :=
  digits.foldlM (fun value digit => (Json.hexDigit? digit).map (value * 16 + ·)) 0

/-- The character with a number; a surrogate is none. -/
def charOf? (code : Nat) : Option Char :=
  if code.isValidChar then some (Char.ofNat code) else none

/-- The character of the escape after a backslash, and its width. -/
def escape? : List Char → Option (Char × Nat)
  | [] => none
  | c :: rest =>
      match digitCount? c with
      | none => (letterEscape? c).map (·, 1)
      | some count =>
          if rest.length < count then none
          else do
            let code ← ofHexDigits? (rest.take count)
            return (← charOf? code, count + 1)

/-- Read a scalar after its opening quote, put after `read`, which is given
backwards. -/
def read (quote : Char) : (fuel : Nat) → (read : List Char) → Cursor →
    Option (List Char × Cursor)
  | 0, _, _ => none
  | fuel + 1, done, cursor =>
      if cursor.isAtDocumentMark then none
      else
        match cursor.rest with
        | [] => none
        | c :: rest =>
            if c = quote then
              if quote = '\'' ∧ rest.head? = some '\'' then
                read quote fuel ('\'' :: done) (cursor.skip 2)
              else some (done.reverse, cursor.skip 1)
            else if c = '\\' ∧ quote = '"' then
              match (cursor.skip 1).takeBreak? with
              | some (_, next) => do
                  let (gap, next) ← readGap 0 true next.rest.length {} next
                  read quote fuel (gap.breaks.reverse ++ done) next
              | none => do
                  let (c, width) ← escape? rest
                  read quote fuel (c :: done) (cursor.skip (width + 1))
            else if isSolid c then read quote fuel (c :: done) (cursor.skip 1)
            else do
              let (gap, next) ← readGap 0 false cursor.rest.length {} cursor
              read quote fuel (gap.text.reverse ++ done) next

end Guidebook.Yaml.Quoted
