import Guidebook.Yaml.Scalar.Block
import Guidebook.Yaml.Scalar.Plain
import Guidebook.Yaml.Scalar.Quoted
import Guidebook.Yaml.Token.Property

/-!
# Reading tokens

The tokens of a text are read from its start to its end.  A key of a mapping needs
no sign of its own: what may turn out to be a key is remembered, and when its
colon follows on the same line, the sign of the key is put before it and, where
the key opens a block, the start of the block too.
-/

namespace Guidebook.Yaml

/-- Something that may turn out to be a key. -/
structure PendingKey where
  /-- The number of tokens before it. -/
  place : Nat
  start : Cursor
  /-- Nothing but a key can stand there. -/
  required : Bool

/-- The state of reading: the place in the text, the tokens so far, the last one
first, and what is open. -/
structure Scan where
  cursor : Cursor
  tokens : List Token := []
  /-- One more than the column of the innermost block; zero without a block. -/
  margin : Nat := 0
  /-- The margins of the blocks around it, the innermost first. -/
  margins : List Nat := []
  /-- What may turn out to be a key in the innermost collection. -/
  key : Option PendingKey := none
  /-- The same for the collections around it, for each open flow collection. -/
  outerKeys : List (Option PendingKey) := []
  /-- A key may start here. -/
  keyAllowed : Bool := true

namespace Scan

/-- The longest distance between the start of a key and its colon. -/
def longestKey : Nat := 1024

/-- The place is in a flow collection. -/
def inFlow (scan : Scan) : Bool := !scan.outerKeys.isEmpty

/-- Add a token at the end. -/
def push (scan : Scan) (token : Token) : Scan :=
  { scan with tokens := token :: scan.tokens }

/-- Put tokens before all tokens but the first `place` ones. -/
def insertAt (scan : Scan) (place : Nat) (inserted : List Token) : Scan :=
  let later := scan.tokens.length - place
  { scan with
    tokens := scan.tokens.take later ++ inserted.reverse ++ scan.tokens.drop later }

/-- Go to the next token, over spaces, comments and line breaks.  A tab counts as a
space where no key may start. -/
def skipToToken : (fuel : Nat) → Scan → Scan
  | 0, scan => scan
  | fuel + 1, scan =>
      let cursor :=
        if scan.cursor.index = 0 ∧ scan.cursor.rest.head? = some '\ufeff' then
          scan.cursor.skip 1
        else scan.cursor
      let tabs := scan.inFlow || !scan.keyAllowed
      let cursor := cursor.skipWhile fun c => c == ' ' || (tabs && c == '\t')
      let cursor :=
        if cursor.rest.head? = some '#' then cursor.skipWhile (!isBreak ·) else cursor
      match cursor.takeBreak? with
      | none => { scan with cursor }
      | some (_, next) =>
          skipToToken fuel
            { scan with cursor := next, keyAllowed := scan.keyAllowed || !scan.inFlow }

/-- What may turn out to be a key, as long as it is on the line and not too far
away; it is refused where it has to be a key and is not. -/
def freshKey? (cursor : Cursor) : Option PendingKey → Option (Option PendingKey)
  | none => some none
  | some key =>
      if key.start.line < cursor.line ∨ key.start.index + longestKey < cursor.index then
        if key.required then none else some none
      else some (some key)

/-- Forget what cannot turn out to be a key any more. -/
def dropStaleKeys? (scan : Scan) : Option Scan := do
  let key ← freshKey? scan.cursor scan.key
  let outerKeys ← scan.outerKeys.mapM (freshKey? scan.cursor)
  return { scan with key, outerKeys }

/-- Forget what might have turned out to be a key. -/
def dropKey? (scan : Scan) : Option Scan :=
  if scan.key.any (·.required) then none else some { scan with key := none }

/-- Remember that a key may start here. -/
def markKey? (scan : Scan) : Option Scan :=
  if scan.keyAllowed then do
    let required := !scan.inFlow && scan.margin == scan.cursor.column + 1
    let place := scan.tokens.length
    let start := scan.cursor
    let scan ← scan.dropKey?
    return { scan with key := some ⟨place, start, required⟩ }
  else some scan

/-- Close the blocks whose column is not before `margin`, for a place with a lesser
margin. -/
def closeBlocks (scan : Scan) (margin : Nat) : Scan :=
  if scan.inFlow then scan else close scan margin scan.margins
where
  close (scan : Scan) (margin : Nat) : List Nat → Scan
    | [] => scan
    | outer :: margins =>
        if margin < scan.margin then
          close { scan.push .blockEnd with margin := outer, margins } margin margins
        else scan

/-- Open a block in a column, when it is right of the innermost block; its token
stands before all but the first `place` tokens. -/
def openBlock (scan : Scan) (column place : Nat) (token : Token) : Scan :=
  if !scan.inFlow && scan.margin < column + 1 then
    { scan.insertAt place [token] with
      margin := column + 1, margins := scan.margin :: scan.margins }
  else scan

/-- Add a token of some characters. -/
def take (scan : Scan) (width : Nat) (token : Token) (keyAllowed : Bool) : Scan :=
  { scan.push token with cursor := scan.cursor.skip width, keyAllowed }

/-- A token at the start of a line that no block contains. -/
def takeOutside? (scan : Scan) : Option Scan := (scan.closeBlocks 0).dropKey?

/-- The start of a flow collection. -/
def takeFlowStart? (scan : Scan) (token : Token) : Option Scan := do
  let scan ← scan.markKey?
  return { scan.take 1 token true with key := none, outerKeys := scan.key :: scan.outerKeys }

/-- The end of a flow collection. -/
def takeFlowEnd? (scan : Scan) (token : Token) : Option Scan := do
  let scan ← scan.dropKey?
  let scan := scan.take 1 token false
  match scan.outerKeys with
  | [] => return scan
  | key :: outerKeys => return { scan with key, outerKeys }

/-- The dash of an entry of a block sequence. -/
def takeBlockEntry? (scan : Scan) : Option Scan := do
  guard (scan.inFlow || scan.keyAllowed)
  let scan := scan.openBlock scan.cursor.column scan.tokens.length .blockSequence
  let scan ← scan.dropKey?
  return scan.take 1 .blockEntry true

/-- The question mark of a key. -/
def takeKey? (scan : Scan) : Option Scan := do
  guard (scan.inFlow || scan.keyAllowed)
  let scan := scan.openBlock scan.cursor.column scan.tokens.length .blockMapping
  let scan ← scan.dropKey?
  return scan.take 1 .key (!scan.inFlow)

/-- The colon of a value, after a key without a sign or with one. -/
def takeValue? (scan : Scan) : Option Scan :=
  match scan.key with
  | some key =>
      let scan := scan.insertAt key.place [.key]
      let scan := scan.openBlock key.start.column key.place .blockMapping
      some { scan.take 1 .value false with key := none }
  | none => do
      guard (scan.inFlow || scan.keyAllowed)
      let scan := scan.openBlock scan.cursor.column scan.tokens.length .blockMapping
      return scan.take 1 .value (!scan.inFlow)

/-- A token with a text of its own, which `read` reads after its first character. -/
def takeNode? (scan : Scan) (read : Cursor → Option (Token × Cursor)) : Option Scan := do
  let scan ← scan.markKey?
  let (token, cursor) ← read (scan.cursor.skip 1)
  return { scan.push token with cursor, keyAllowed := false }

/-- A scalar in quotes. -/
def takeQuoted? (scan : Scan) (quote : Char) : Option Scan :=
  scan.takeNode? fun cursor => do
    let (text, cursor) ← Quoted.read quote (cursor.rest.length + 1) [] cursor
    return (.scalar (String.ofList text) .quoted, cursor)

/-- A block scalar. -/
def takeBlock? (scan : Scan) (folded : Bool) : Option Scan := do
  let scan ← scan.dropKey?
  let (text, cursor) ← Block.read folded scan.margin (scan.cursor.skip 1)
  let style := if folded then Style.folded else .literal
  return { scan.push (.scalar (String.ofList text) style) with cursor, keyAllowed := true }

/-- A plain scalar. -/
def takePlain? (scan : Scan) : Option Scan := do
  let scan ← scan.markKey?
  let (text, atNewLine, cursor) ←
    Plain.read scan.inFlow scan.margin (scan.cursor.rest.length + 1) [] {} scan.cursor
  return { scan.push (.scalar (String.ofList text) .plain) with
    cursor, keyAllowed := atNewLine }

/-- A character that may start a plain scalar, with what follows it. -/
def startsPlain (inFlow : Bool) (c : Char) (rest : List Char) : Bool :=
  if c == '-' then !rest.head?.any isGap
  else if c == '?' || c == ':' then !inFlow && !endsWord rest
  else isSolid c && !",[]\x7b\x7d#&*!|>'\"%@\x60".toList.contains c

/-- Read the token at a place, which starts with the given character. -/
def takeToken? (scan : Scan) (c : Char) (rest : List Char) : Option Scan :=
  if scan.cursor.column = 0 ∧ c = '%' then do
    let scan ← scan.takeOutside?
    let (token, cursor) ← Token.takeDirective? (scan.cursor.skip 1)
    return { scan.push token with cursor, keyAllowed := false }
  else if scan.cursor.isAtMark '-' then
    scan.takeOutside?.map (·.take 3 .documentStart false)
  else if scan.cursor.isAtMark '.' then
    scan.takeOutside?.map (·.take 3 .documentEnd false)
  else if c = '[' then scan.takeFlowStart? .flowSequence
  else if c = '\x7b' then scan.takeFlowStart? .flowMapping
  else if c = ']' then scan.takeFlowEnd? .flowSequenceEnd
  else if c = '\x7d' then scan.takeFlowEnd? .flowMappingEnd
  else if c = ',' then scan.dropKey?.map (·.take 1 .flowEntry true)
  else if c = '-' ∧ endsWord rest then scan.takeBlockEntry?
  else if c = '?' ∧ (scan.inFlow || endsWord rest) then scan.takeKey?
  else if c = ':' ∧ (scan.inFlow || endsWord rest) then scan.takeValue?
  else if c = '*' then
    scan.takeNode? fun cursor =>
      (Token.takeName? cursor).map fun (name, cursor) => (.alias name, cursor)
  else if c = '&' then
    scan.takeNode? fun cursor =>
      (Token.takeName? cursor).map fun (name, cursor) => (.anchor name, cursor)
  else if c = '!' then scan.takeNode? (Token.takeTag? scan.inFlow)
  else if c = '|' ∧ !scan.inFlow then scan.takeBlock? false
  else if c = '>' ∧ !scan.inFlow then scan.takeBlock? true
  else if c = '\'' ∨ c = '"' then scan.takeQuoted? c
  else if startsPlain scan.inFlow c rest then scan.takePlain?
  else none

/-- Read tokens up to the end of the text; each takes up a character at least. -/
def readAll : (fuel : Nat) → Scan → Option (List Token)
  | 0, _ => none
  | fuel + 1, scan => do
      let scan ← (scan.skipToToken (scan.cursor.rest.length + 1)).dropStaleKeys?
      match scan.cursor.rest with
      | [] =>
          let scan ← scan.takeOutside?
          return scan.tokens.reverse
      | c :: rest =>
          let scan := scan.closeBlocks (scan.cursor.column + 1)
          let scan ← scan.takeToken? c rest
          readAll fuel scan

end Scan

/-- The tokens of a text. -/
def Token.readAll? (text : String) : Option (List Token) :=
  let text := text.toList
  if text.all isAllowed then Scan.readAll (text.length + 1) { cursor := { rest := text } }
  else none

end Guidebook.Yaml
