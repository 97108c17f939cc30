import Guidebook.Yaml.Node
import Guidebook.Yaml.Token.Reader

/-!
# Reading nodes

The nodes of the tokens of a text, of which there may be one document.  A node
has at most one anchor and one tag before it.  Where a node is left out, an empty
scalar stands for it.

The slot of an anchor is the number of names of anchors before it, so a name that
is given again gets a new slot, which the next new name then shares; the last node
with a slot holds it.
-/

namespace Guidebook.Yaml

/-- The state of reading nodes: the tokens to come and the anchors so far. -/
structure NodeScan where
  tokens : List Token
  /-- What the handles of tags stand for. -/
  handles : List (String × String)
  /-- The slots of the names of anchors. -/
  slots : List (String × Nat) := []
  /-- The anchored nodes, by their order in the text, the last one first. -/
  nodes : List (Nat × Node) := []
  /-- The order of the node that holds each slot. -/
  holders : List (Nat × Nat) := []
  /-- The number of anchors so far. -/
  anchors : Nat := 0

namespace NodeScan

/-- A step of reading nodes. -/
abbrev Reading := StateT NodeScan Option

/-- The next token. -/
def peek : Reading (Option Token) := do
  return (← get).tokens.head?

/-- Go over a token. -/
def advance : Reading Unit :=
  modify fun scan => { scan with tokens := scan.tokens.drop 1 }

/-- Go over the given token, when it is next. -/
def advanceOver (token : Token) : Reading Bool := do
  if (← peek) = some token then
    advance
    return true
  else return false

/-- The properties before a node. -/
structure Properties where
  anchor : Option String := none
  tag : Option (String × String) := none

/-- The anchor and the tag before a node, in either order. -/
def readProperties : Reading Properties := do
  match ← peek with
  | some (.anchor name) =>
      advance
      match ← peek with
      | some (.tag handle suffix) =>
          advance
          return ⟨some name, some (handle, suffix)⟩
      | _ => return ⟨some name, none⟩
  | some (.tag handle suffix) =>
      advance
      match ← peek with
      | some (.anchor name) =>
          advance
          return ⟨some name, some (handle, suffix)⟩
      | _ => return ⟨none, some (handle, suffix)⟩
  | _ => return {}

/-- The tag that a handle and a suffix write; an unknown handle is refused. -/
def expand (handle suffix : String) : Reading String := do
  if handle.isEmpty then return suffix
  match (← get).handles.lookup handle with
  | some expansion => return expansion ++ suffix
  | none => failure

/-- Give a slot to an anchor; the answer is the order of its node. -/
def claim (name : String) : Reading Nat := do
  let scan ← get
  let slot := scan.slots.length
  let others := scan.slots.filter (·.1 != name)
  set { scan with
    slots := (name, slot) :: others
    holders := (slot, scan.anchors) :: scan.holders
    anchors := scan.anchors + 1 }
  return scan.anchors

/-- Keep the node of an anchor. -/
def keep (order : Option Nat) (node : Node) : Reading Unit :=
  match order with
  | none => pure ()
  | some order => modify fun scan => { scan with nodes := (order, node) :: scan.nodes }

/-- The next token is one of those after which a node is left out. -/
def isLeftOut (tokens : List Token) : Reading Bool := do
  match ← peek with
  | some token => return tokens.contains token
  | none => return false

/-- The tokens before which an entry of a block sequence is empty. -/
def afterBlockEntry : List Token := [.blockEntry, .blockEnd]

/-- The same for a block sequence without a block of its own. -/
def afterOpenEntry : List Token := [.blockEntry, .key, .value, .blockEnd]

/-- The tokens before which a key or a value of a block mapping is empty. -/
def afterBlockKey : List Token := [.key, .value, .blockEnd]

/-- The tokens before which a key of a flow mapping is empty. -/
def afterFlowKey : List Token := [.value, .flowEntry, .flowMappingEnd]

/-- The tokens before which a value of a flow mapping is empty. -/
def afterFlowValue : List Token := [.flowEntry, .flowMappingEnd]

/-- The tokens before which a key of a pair in a flow sequence is empty. -/
def afterPairKey : List Token := [.value, .flowEntry, .flowSequenceEnd]

/-- The tokens before which a value of a pair in a flow sequence is empty. -/
def afterPairValue : List Token := [.flowEntry, .flowSequenceEnd]

mutual

/-- Read a node.  A block may start where `inBlock` says so; `openSequence` says
that a block sequence may stand there without a block of its own. -/
def readNode (inBlock openSequence : Bool) : (fuel : Nat) → Reading Node
  | 0 => failure
  | fuel + 1 => do
      if let some (.alias name) ← peek then
        advance
        match (← get).slots.lookup name with
        | some slot => return .alias slot
        | none => failure
      let properties ← readProperties
      let tag ←
        match properties.tag with
        | none => pure none
        | some (handle, suffix) => pure (some (← expand handle suffix))
      let order ←
        match properties.anchor with
        | none => pure none
        | some name => pure (some (← claim name))
      let node ←
        match ← peek with
        | some (.scalar text style) =>
            advance
            pure (.scalar tag text style)
        | some .flowSequence =>
            advance
            pure (.sequence tag (← readFlowSequence true fuel))
        | some .flowMapping =>
            advance
            pure (.mapping tag (← readFlowMapping true fuel))
        | some .blockEntry =>
            if openSequence then pure (.sequence tag (← readOpenSequence fuel))
            else readLeftOut properties tag
        | some .blockSequence =>
            if inBlock then
              advance
              pure (.sequence tag (← readBlockSequence fuel))
            else readLeftOut properties tag
        | some .blockMapping =>
            if inBlock then
              advance
              pure (.mapping tag (← readBlockMapping fuel))
            else readLeftOut properties tag
        | _ => readLeftOut properties tag
      keep order node
      return node

/-- A node that is left out; something has to be before it. -/
def readLeftOut (properties : Properties) (tag : Option String) : Reading Node :=
  if properties.anchor.isSome || properties.tag.isSome then pure (.scalar tag "" .plain)
  else failure

/-- Read a node, or the empty scalar before one of the given tokens. -/
def readNodeUnless (tokens : List Token) (inBlock openSequence : Bool) :
    (fuel : Nat) → Reading Node
  | 0 => failure
  | fuel + 1 => do
      if ← isLeftOut tokens then return .empty
      readNode inBlock openSequence fuel

/-- Read the entries of a block sequence up to the end of its block. -/
def readBlockSequence : (fuel : Nat) → Reading (List Node)
  | 0 => failure
  | fuel + 1 => do
      if ← advanceOver .blockEntry then
        let item ← readNodeUnless afterBlockEntry true false fuel
        return item :: (← readBlockSequence fuel)
      if ← advanceOver .blockEnd then return []
      failure

/-- Read the entries of a block sequence that has no block of its own. -/
def readOpenSequence : (fuel : Nat) → Reading (List Node)
  | 0 => failure
  | fuel + 1 => do
      if ← advanceOver .blockEntry then
        let item ← readNodeUnless afterOpenEntry true false fuel
        return item :: (← readOpenSequence fuel)
      return []

/-- Read the entries of a block mapping up to the end of its block. -/
def readBlockMapping : (fuel : Nat) → Reading (List (Node × Node))
  | 0 => failure
  | fuel + 1 => do
      if ← advanceOver .key then
        let key ← readNodeUnless afterBlockKey true true fuel
        let value ←
          if ← advanceOver .value then readNodeUnless afterBlockKey true true fuel
          else pure .empty
        return (key, value) :: (← readBlockMapping fuel)
      if ← advanceOver .blockEnd then return []
      failure

/-- Read the entries of a flow sequence up to its end. -/
def readFlowSequence (atStart : Bool) : (fuel : Nat) → Reading (List Node)
  | 0 => failure
  | fuel + 1 => do
      if ← advanceOver .flowSequenceEnd then return []
      if !atStart then
        if !(← advanceOver .flowEntry) then failure
      if ← advanceOver .flowSequenceEnd then return []
      if ← advanceOver .key then
        let pair ← readPair fuel
        return .mapping none [pair] :: (← readFlowSequence false fuel)
      let item ← readNode false false fuel
      return item :: (← readFlowSequence false fuel)

/-- Read a pair in a flow sequence.  Where its key is left out, the token after it
is gone over. -/
def readPair : (fuel : Nat) → Reading (Node × Node)
  | 0 => failure
  | fuel + 1 => do
      let key ←
        if ← isLeftOut afterPairKey then
          advance
          pure .empty
        else readNode false false fuel
      let value ←
        if ← advanceOver .value then readNodeUnless afterPairValue false false fuel
        else pure .empty
      return (key, value)

/-- Read the entries of a flow mapping up to its end. -/
def readFlowMapping (atStart : Bool) : (fuel : Nat) → Reading (List (Node × Node))
  | 0 => failure
  | fuel + 1 => do
      if ← advanceOver .flowMappingEnd then return []
      if !atStart then
        if !(← advanceOver .flowEntry) then failure
      if ← advanceOver .flowMappingEnd then return []
      let entry ←
        if ← advanceOver .key then
          let key ← readNodeUnless afterFlowKey false false fuel
          let value ←
            if ← advanceOver .value then readNodeUnless afterFlowValue false false fuel
            else pure .empty
          pure (key, value)
        else
          pure (← readNode false false fuel, .empty)
      return entry :: (← readFlowMapping false fuel)

end

/-- The handles that a document knows by itself. -/
def standardHandles : List (String × String) :=
  [("!", "!"), ("!!", "tag:yaml.org,2002:")]

/-- The versions of the format that are known. -/
def isKnownVersion (major minor : Nat) : Bool :=
  major == 1 && (minor == 1 || minor == 2)

/-- Read the directives before a document: no version twice, and no handle
twice. -/
def readDirectives (versionSeen : Bool) (handles : List (String × String)) :
    List Token → Option (List (String × String) × List Token)
  | .version major minor :: rest =>
      if versionSeen || !isKnownVersion major minor then none
      else readDirectives true handles rest
  | .tagHandle handle expansion :: rest =>
      if (handles.lookup handle).isSome then none
      else readDirectives versionSeen ((handle, expansion) :: handles) rest
  | tokens => some (handles ++ standardHandles, tokens)

/-- The token starts a directive. -/
def isDirective : Token → Bool
  | .version .. | .tagHandle .. => true
  | _ => false

/-- Read the root of a document and what ends the document. -/
def readRoot (explicit : Bool) (fuel : Nat) : Reading Node := do
  let isEmpty ←
    match ← peek with
    | none => pure true
    | some token =>
        pure (explicit && (isDirective token || token = .documentStart || token = .documentEnd))
  if isEmpty then return .empty
  readNode true false fuel

end NodeScan

open NodeScan in
/-- The document of some tokens. -/
def Document.ofTokens? (tokens : List Token) : Option Document := do
  if tokens.isEmpty then return ⟨none, []⟩
  let explicit := tokens.head?.any fun token => isDirective token || token = .documentStart
  let (handles, rest) ←
    if explicit then
      match ← readDirectives false [] tokens with
      | (handles, .documentStart :: rest) => some (handles, rest)
      | _ => none
    else some (standardHandles, tokens)
  let (root, scan) ←
    (readRoot explicit (4 * tokens.length + 8)).run { tokens := rest, handles }
  guard (scan.tokens.all (· = .documentEnd))
  let anchored := scan.holders.filterMap fun (slot, order) =>
    (scan.nodes.lookup order).map fun node => (slot, node)
  return ⟨some root, anchored⟩

/-- The document that a text writes. -/
def Document.parse? (text : String) : Option Document := do
  Document.ofTokens? (← Token.readAll? text)

end Guidebook.Yaml
