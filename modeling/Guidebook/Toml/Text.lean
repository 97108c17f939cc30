import Guidebook.Json.Reader
import Guidebook.Yaml.Scalar.Quoted

/-!
# Blanks, keys and strings of TOML

Each function reads something at the start of a text and gives the text after it.
There are four kinds of strings: with escapes or without, on one line or on
several.
-/

namespace Guidebook.Toml

/-- A space or a tab. -/
def isSpace (c : Char) : Bool := c == ' ' || c == '\t'

/-- The text after the spaces at its start. -/
def skipSpaces (text : List Char) : List Char := text.dropWhile isSpace

/-- A character that may stand in a comment or, but for its quote and its escape,
in a string. -/
def isPrintable (c : Char) : Bool :=
  c == '\t' || (0x20 ≤ c.val && c.val ≤ 0x7E) || 0x80 ≤ c.val

/-- The text after a line break, when it starts with one. -/
def takeNewline? : List Char → Option (List Char)
  | '\n' :: rest => some rest
  | '\r' :: '\n' :: rest => some rest
  | _ => none

/-- The text after the comment at its start, if there is one. -/
def skipComment : List Char → List Char
  | '#' :: rest => rest.dropWhile isPrintable
  | text => text

/-- The text after the rest of a line that holds nothing but a comment. -/
def endLine? (text : List Char) : Option (List Char) :=
  match skipComment (skipSpaces text) with
  | [] => some []
  | rest => takeNewline? rest

/-- The text after spaces, comments and line breaks. -/
def skipLines : (fuel : Nat) → List Char → List Char
  | 0, text => text
  | fuel + 1, text =>
      let text := skipSpaces text
      match takeNewline? (skipComment text) with
      | some rest => skipLines fuel rest
      | none => text

/-- The character of an escape after its backslash, and the text after it. -/
def takeEscape? : List Char → Option (Char × List Char)
  | 'u' :: rest => number? 4 rest
  | 'U' :: rest => number? 8 rest
  | c :: rest =>
      match c with
      | 'b' => some ('\x08', rest)
      | 't' => some ('\t', rest)
      | 'n' => some ('\n', rest)
      | 'f' => some ('\x0c', rest)
      | 'r' => some ('\r', rest)
      | '"' => some ('"', rest)
      | '\\' => some ('\\', rest)
      | _ => none
  | [] => none
where
  number? (count : Nat) (text : List Char) : Option (Char × List Char) := do
    guard (count ≤ text.length)
    let code ← Yaml.Quoted.ofHexDigits? (text.take count)
    return (← Yaml.Quoted.charOf? code, text.drop count)

/-- A string on one line after its opening quote, put after `done`, which is given
backwards. -/
def takeLine? (quote : Char) : (fuel : Nat) → (done : List Char) → List Char →
    Option (List Char × List Char)
  | 0, _, _ => none
  | _ + 1, _, [] => none
  | fuel + 1, done, c :: rest =>
      if c = quote then some (done.reverse, rest)
      else if c = '\\' ∧ quote = '"' then do
        let (c, rest) ← takeEscape? rest
        takeLine? quote fuel (c :: done) rest
      else if isPrintable c then takeLine? quote fuel (c :: done) rest
      else none

/-- The text after a backslash at the end of a line, with all blanks and line breaks
up to the next character. -/
def skipEscapedNewline? (text : List Char) : Option (List Char) :=
  (takeNewline? (skipSpaces text)).map fun rest => skipBlanks (rest.length + 1) rest
where
  skipBlanks : (fuel : Nat) → List Char → List Char
    | 0, text => text
    | fuel + 1, text =>
        match takeNewline? (skipSpaces text) with
        | some rest => skipBlanks fuel rest
        | none => skipSpaces text

/-- A string on several lines after its opening quotes, put after `done`, which is
given backwards.  Up to two quotes may stand before the closing quotes. -/
def takeLines? (quote : Char) : (fuel : Nat) → (done : List Char) → List Char →
    Option (List Char × List Char)
  | 0, _, _ => none
  | _ + 1, _, [] => none
  | fuel + 1, done, c :: rest =>
      if c = quote then
        let count := ((c :: rest).takeWhile (· == quote)).length
        let after := (c :: rest).drop count
        if count < 3 then
          takeLines? quote fuel (List.replicate count quote ++ done) after
        else if count ≤ 5 then
          some ((List.replicate (count - 3) quote ++ done).reverse, after)
        else none
      else if c = '\\' ∧ quote = '"' then
        match skipEscapedNewline? rest with
        | some rest => takeLines? quote fuel done rest
        | none => do
            let (c, rest) ← takeEscape? rest
            takeLines? quote fuel (c :: done) rest
      else
        match takeNewline? (c :: rest) with
        | some rest => takeLines? quote fuel ('\n' :: done) rest
        | none =>
            if isPrintable c then takeLines? quote fuel (c :: done) rest else none

/-- A string on several lines after its opening quotes; a line break right after
them does not count. -/
def takeBody? (quote : Char) (text : List Char) : Option (List Char × List Char) :=
  let text := (takeNewline? text).getD text
  takeLines? quote (text.length + 1) [] text

/-- A string. -/
def takeString? : List Char → Option (List Char × List Char)
  | '"' :: '"' :: '"' :: rest => takeBody? '"' rest
  | '\'' :: '\'' :: '\'' :: rest => takeBody? '\'' rest
  | '"' :: rest => takeLine? '"' (rest.length + 1) [] rest
  | '\'' :: rest => takeLine? '\'' (rest.length + 1) [] rest
  | _ => none

/-- A character of a key without quotes. -/
def isKeyChar (c : Char) : Bool := c.isAlphanum || c == '_' || c == '-'

/-- One part of a key. -/
def takeKeyPart? (text : List Char) : Option (String × List Char) :=
  match text with
  | '"' :: rest =>
      (takeLine? '"' (rest.length + 1) [] rest).map fun (key, rest) => (String.ofList key, rest)
  | '\'' :: rest =>
      (takeLine? '\'' (rest.length + 1) [] rest).map fun (key, rest) => (String.ofList key, rest)
  | text =>
      match text.span isKeyChar with
      | ([], _) => none
      | (key, rest) => some (String.ofList key, rest)

/-- The greatest depth of nested values and of keys. -/
def deepest : Nat := 80

/-- The parts of a key, with the spaces around them. -/
def takeKeyParts? : (fuel : Nat) → List Char → Option (List String × List Char)
  | 0, _ => none
  | fuel + 1, text => do
      let (part, rest) ← takeKeyPart? (skipSpaces text)
      match skipSpaces rest with
      | '.' :: rest => do
          let (parts, rest) ← takeKeyParts? fuel rest
          return (part :: parts, rest)
      | rest => return ([part], rest)

/-- A key. -/
def takeKey? (text : List Char) : Option (List String × List Char) :=
  takeKeyParts? (deepest - 1) text

end Guidebook.Toml
