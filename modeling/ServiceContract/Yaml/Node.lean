import ServiceContract.Yaml.Document
import ServiceContract.Yaml.Scalar
import ServiceContract.Yaml.Token

/-!
# Nodes of YAML documents

`Node.ofTokens` reads the nodes of a single document from its tokens.  Of tags only four are known:
`!!str` for texts, `!!seq` and `!!map` for collections, and `!`, which makes a scalar denote what it
would denote without quotes.

`read` reads a document as a mapping from scalars to scalars.  The keys of a mapping are scalars;
pairs under the merge sign stand before all others.  What a collection inside the mapping holds
does not matter, but every scalar in it must have a value.  This is the reader that the program
runs with; what configurations are is settled for every reader.
-/

namespace ServiceContract.Yaml

/-- A node. -/
inductive Node where
  | scalar (text : Text) (isPlain : Bool)
  | sequence (items : List Node)
  | mapping (pairs : List (Node × Node))
  deriving Inhabited

/-- The node that stands where nothing is written. -/
def Node.empty : Node := .scalar "" true

/-! ### Reading nodes -/

/-- The nodes that have names. -/
abbrev Anchors := List (Text × Node)

/-- What was read, the names known after it, and the tokens left. -/
abbrev Reading (α : Type) := α × Anchors × List Token

/-- The first token is one of the given ones. -/
def startsWith (expected : List Token) : List Token → Bool
  | token :: _ => expected.contains token
  | [] => false

/-- The tag and the name in front of a node, in any order, and the tokens after them. -/
def properties : List Token → Option Text × Option Text × List Token
  | .anchor name :: .tag tag :: rest => (some tag, some name, rest)
  | .anchor name :: rest => (none, some name, rest)
  | .tag tag :: .anchor name :: rest => (some tag, some name, rest)
  | .tag tag :: rest => (some tag, none, rest)
  | tokens => (none, none, tokens)

/-- The tag that a collection may have. -/
def Node.collectionTag : Node → Text
  | .sequence _ => "!!seq"
  | _ => "!!map"

/-- The node under a tag. -/
def tagged (tag : Option Text) (node : Node) : Except Fault Node :=
  match tag, node with
  | none, node => .ok node
  | some tag, .scalar text _ =>
    if tag = "!" then .ok (.scalar text true)
    else if tag = "!!str" then .ok (.scalar text false)
    else .error .malformed
  | some tag, node =>
    if tag = "!" ∨ tag = node.collectionTag then .ok node else .error .malformed

/-- What a name stands for inside the collection that it names. -/
def openNode : List Token → Node
  | .flowMappingStart :: _ | .blockMappingStart :: _ => .mapping []
  | _ => .sequence []

/-- Where a node stands: in a flow collection, in a block, or as the value of a block mapping,
where the entries of a sequence need no indentation. -/
inductive Position where
  | flow
  | block
  | blockValue
  deriving DecidableEq, Repr

mutual

/-- Reads a node. -/
def readNode : (fuel : Nat) → Position → Anchors → List Token → Except Fault (Reading Node)
  | 0, _, _, _ => .error .malformed
  | fuel + 1, position, anchors, tokens =>
    match tokens with
    | .alias name :: rest =>
      match anchors.lookup name with
      | some node => .ok (node, anchors, rest)
      | none => .error .malformed
    | _ => do
      let (tag, name, rest) := properties tokens
      let hasProperties := tag.isSome || name.isSome
      match name with
      | none =>
        let (node, anchors, rest) ← readContent fuel position hasProperties anchors rest
        return (← tagged tag node, anchors, rest)
      | some name =>
        if (anchors.lookup name).isSome then .error .malformed
        else
          let known := (name, openNode rest) :: anchors
          let (node, anchors, rest) ← readContent fuel position hasProperties known rest
          let node ← tagged tag node
          return (node, (name, node) :: anchors, rest)

/-- Reads a node without tag and name; after these it may be empty. -/
def readContent : (fuel : Nat) → Position → (mayBeEmpty : Bool) → Anchors → List Token →
    Except Fault (Reading Node)
  | 0, _, _, _, _ => .error .malformed
  | fuel + 1, position, mayBeEmpty, anchors, tokens =>
    let empty : Except Fault (Reading Node) :=
      if mayBeEmpty then .ok (Node.empty, anchors, tokens) else .error .malformed
    match tokens with
    | .scalar text isPlain :: rest => .ok (.scalar text isPlain, anchors, rest)
    | .flowSequenceStart :: rest => do
      let (items, anchors, rest) ← readFlowItems fuel true anchors rest
      .ok (.sequence items, anchors, rest)
    | .flowMappingStart :: rest => do
      let (pairs, anchors, rest) ← readFlowPairs fuel true anchors rest
      .ok (.mapping pairs, anchors, rest)
    | .blockSequenceStart :: rest =>
      if position = .flow then empty
      else do
        let (items, anchors, rest) ← readBlockItems fuel true anchors rest
        .ok (.sequence items, anchors, rest)
    | .blockMappingStart :: rest =>
      if position = .flow then empty
      else do
        let (pairs, anchors, rest) ← readBlockPairs fuel anchors rest
        .ok (.mapping pairs, anchors, rest)
    | .blockEntry :: _ =>
      if position = .blockValue then do
        let (items, anchors, rest) ← readBlockItems fuel false anchors tokens
        .ok (.sequence items, anchors, rest)
      else empty
    | _ => empty

/-- Reads a node, or the empty node before one of the given tokens. -/
def readOptional : (fuel : Nat) → Position → (stops : List Token) → Anchors → List Token →
    Except Fault (Reading Node)
  | 0, _, _, _, _ => .error .malformed
  | fuel + 1, position, stops, anchors, tokens =>
    if startsWith stops tokens then .ok (Node.empty, anchors, tokens)
    else readNode fuel position anchors tokens

/-- Reads the entries of a block sequence; an indented one has a token at its end. -/
def readBlockItems : (fuel : Nat) → (indented : Bool) → Anchors → List Token →
    Except Fault (Reading (List Node))
  | 0, _, _, _ => .error .malformed
  | fuel + 1, indented, anchors, tokens =>
    match tokens with
    | .blockEntry :: rest => do
      let stops := if indented then [.blockEntry, .blockEnd]
        else [.blockEntry, .key, .value, .blockEnd]
      let (item, anchors, rest) ← readOptional fuel .block stops anchors rest
      let (items, anchors, rest) ← readBlockItems fuel indented anchors rest
      .ok (item :: items, anchors, rest)
    | .blockEnd :: rest => .ok ([], anchors, if indented then rest else tokens)
    | _ => if indented then .error .malformed else .ok ([], anchors, tokens)

/-- Reads the pairs of a block mapping. -/
def readBlockPairs : (fuel : Nat) → Anchors → List Token →
    Except Fault (Reading (List (Node × Node)))
  | 0, _, _ => .error .malformed
  | fuel + 1, anchors, tokens =>
    let stops := [Token.key, .value, .blockEnd]
    match tokens with
    | .key :: rest => do
      let (key, anchors, rest) ← readOptional fuel .blockValue stops anchors rest
      let (value, anchors, rest) ← match rest with
        | .value :: rest => readOptional fuel .blockValue stops anchors rest
        | rest => .ok (Node.empty, anchors, rest)
      let (pairs, anchors, rest) ← readBlockPairs fuel anchors rest
      .ok ((key, value) :: pairs, anchors, rest)
    | .blockEnd :: rest => .ok ([], anchors, rest)
    | _ => .error .malformed

/-- Reads a pair of a flow collection that ends before `stop`, after the sign of its key. -/
def readFlowPair : (fuel : Nat) → (stop : Token) → Anchors → List Token →
    Except Fault (Reading (Node × Node))
  | 0, _, _, _ => .error .malformed
  | fuel + 1, stop, anchors, tokens => do
    let (key, anchors, rest) ← readOptional fuel .flow [.value, .flowEntry, stop] anchors tokens
    match rest with
    | .value :: rest =>
      let (value, anchors, rest) ← readOptional fuel .flow [.flowEntry, stop] anchors rest
      .ok ((key, value), anchors, rest)
    | rest => .ok ((key, Node.empty), anchors, rest)

/-- Reads the entries of a flow sequence; a pair among them is a mapping of its own. -/
def readFlowItems : (fuel : Nat) → (first : Bool) → Anchors → List Token →
    Except Fault (Reading (List Node))
  | 0, _, _, _ => .error .malformed
  | fuel + 1, first, anchors, tokens =>
    match tokens, first with
    | .flowSequenceEnd :: rest, _ => .ok ([], anchors, rest)
    | .flowEntry :: .flowSequenceEnd :: rest, false => .ok ([], anchors, rest)
    | .flowEntry :: rest, false => readFlowItem fuel anchors rest
    | _, false => .error .malformed
    | tokens, true => readFlowItem fuel anchors tokens

/-- Reads an entry of a flow sequence, and the entries after it. -/
def readFlowItem : (fuel : Nat) → Anchors → List Token → Except Fault (Reading (List Node))
  | 0, _, _ => .error .malformed
  | fuel + 1, anchors, tokens => do
    let (item, anchors, rest) ← match tokens with
      | .key :: rest => do
        let (pair, anchors, rest) ← readFlowPair fuel .flowSequenceEnd anchors rest
        .ok (Node.mapping [pair], anchors, rest)
      | tokens => readNode fuel .flow anchors tokens
    let (items, anchors, rest) ← readFlowItems fuel false anchors rest
    .ok (item :: items, anchors, rest)

/-- Reads the pairs of a flow mapping. -/
def readFlowPairs : (fuel : Nat) → (first : Bool) → Anchors → List Token →
    Except Fault (Reading (List (Node × Node)))
  | 0, _, _, _ => .error .malformed
  | fuel + 1, first, anchors, tokens =>
    match tokens, first with
    | .flowMappingEnd :: rest, _ => .ok ([], anchors, rest)
    | .flowEntry :: .flowMappingEnd :: rest, false => .ok ([], anchors, rest)
    | .flowEntry :: rest, false => readFlowMember fuel anchors rest
    | _, false => .error .malformed
    | tokens, true => readFlowMember fuel anchors tokens

/-- Reads a pair of a flow mapping, whose value may be left out, and the pairs after it. -/
def readFlowMember : (fuel : Nat) → Anchors → List Token →
    Except Fault (Reading (List (Node × Node)))
  | 0, _, _ => .error .malformed
  | fuel + 1, anchors, tokens => do
    let (pair, anchors, rest) ← match tokens with
      | .key :: rest => readFlowPair fuel .flowMappingEnd anchors rest
      | tokens => do
        let (key, anchors, rest) ← readNode fuel .flow anchors tokens
        .ok ((key, Node.empty), anchors, rest)
    let (pairs, anchors, rest) ← readFlowPairs fuel false anchors rest
    .ok (pair :: pairs, anchors, rest)

end

/-- Whether there is a marker in front of a document, and the tokens after it.  Directives need
one, and the version is given once at most. -/
def documentStart (tokens : List Token) : Except Fault (Bool × List Token) :=
  let isDirective (t : Token) := t == .version || t == .directive
  let directives := tokens.takeWhile isDirective
  match tokens.dropWhile isDirective with
  | .documentStart :: rest =>
    if directives.count .version ≤ 1 then .ok (true, rest) else .error .malformed
  | rest => if directives.isEmpty then .ok (false, rest) else .error .malformed

/-- The node of the only document of some tokens, if there is a document. -/
def Node.ofTokens (tokens : List Token) : Except Fault (Option Node) := do
  if tokens.isEmpty then return none
  let (marked, rest) ← documentStart tokens
  let stops := [Token.version, .directive, .documentStart, .documentEnd]
  let (node, _, rest) ←
    if marked && (rest.isEmpty || startsWith stops rest) then .ok (Node.empty, [], rest)
    else readNode (8 * tokens.length + 8) .block [] rest
  if (rest.dropWhile (· == .documentEnd)).isEmpty then return some node
  else .error .malformed

/-! ### Values -/

/-- The value that a plain scalar denotes. -/
def plainValue (text : Text) : Except Fault Value :=
  match plainFault? text with
  | some fault => .error (.noValue fault.message)
  | none =>
    match plainKind text with
    | .null => .ok .null
    | .text => .ok (.text text)
    | .merge | .value => .error .malformed
    | .boolean | .integer | .float | .date => .ok .other

/-- The value of a node; what a collection holds is left open. -/
def Node.value : Node → Except Fault Value
  | .scalar text true => plainValue text
  | .scalar text false => .ok (.text text)
  | _ => .ok .other

/-- The value of a scalar as the key of a mapping. -/
def Node.keyValue : Node → Except Fault Value
  | .scalar text true => if plainKind text = .value then .ok (.text text) else plainValue text
  | .scalar text false => .ok (.text text)
  | _ => .error .malformed

/-- The node is the merge sign. -/
def Node.isMerge : Node → Bool
  | .scalar text true => text == "<<"
  | _ => false

mutual

/-- The pairs of a mapping. -/
def Node.pairs : Node → Except Fault (List (Node × Node))
  | .mapping pairs => (flatten pairs).map fun (merged, own) => merged ++ own
  | _ => .error .malformed

/-- The pairs that a node under the merge sign adds: those of a mapping, or of the mappings in a
sequence from the last to the first. -/
def Node.mergedPairs : Node → Except Fault (List (Node × Node))
  | .mapping pairs => (flatten pairs).map fun (merged, own) => merged ++ own
  | .sequence items => pairsOfItems items
  | .scalar .. => .error .malformed

/-- The pairs of some mappings, from the last to the first. -/
def pairsOfItems : List Node → Except Fault (List (Node × Node))
  | [] => .ok []
  | item :: rest => do
    let pairs ← item.pairs
    return (← pairsOfItems rest) ++ pairs

/-- The pairs under the merge sign, and the others. -/
def flatten : List (Node × Node) → Except Fault (List (Node × Node) × List (Node × Node))
  | [] => .ok ([], [])
  | (key, node) :: rest => do
    if key.isMerge then
      let pairs ← node.mergedPairs
      let (merged, own) ← flatten rest
      return (pairs ++ merged, own)
    else
      let (merged, own) ← flatten rest
      return (merged, (key, node) :: own)

end

/-- The keys and values of some pairs. -/
def valuesOf (pairs : List (Node × Node)) : Except Fault (List (Value × Value)) :=
  pairs.mapM fun (key, node) => do
    let key ← key.keyValue
    return (key, ← node.value)

/-- The nodes in a node, where all of them that are scalars, keys among them, have values. -/
def Node.inner : Node → Except Fault (List Node)
  | .scalar .. => .ok []
  | .sequence items => do
    let _ ← items.mapM Node.value
    return items
  | .mapping pairs => do
    let pairs ← (Node.mapping pairs).pairs
    let _ ← valuesOf pairs
    return pairs.map (·.2)

/-- Every scalar under some nodes has a value, level by level, down to `depth` levels. -/
def checkLevels : (depth : Nat) → List Node → Except Fault Unit
  | 0, _ => .ok ()
  | depth + 1, nodes => do
    let next ← nodes.mapM Node.inner
    if next.flatten.isEmpty then return () else checkLevels depth next.flatten

/-- What a node holds as a document with at most `depth` levels. -/
def Node.document (depth : Nat) (node : Node) : Except Fault Document := do
  let value ← node.value
  checkLevels depth [node]
  match node, value with
  | .mapping _, _ => return .mapping (← valuesOf (← node.pairs))
  | _, .null => return .null
  | _, _ => return .other

/-- Whether a number is beyond those of signed words of 32 bits. -/
def exceedsWord (number : Nat) : Bool := Nat.pow 2 31 ≤ number

/-- The fault of a text that cannot be cut into tokens. -/
def Malformation.toFault : Malformation → Fault
  | .noCodePoint number =>
    if exceedsWord number then .tooLarge "Python int too large to convert to C int"
    else .noValue "chr() arg not in range(0x110000)"
  | _ => .malformed

/-- What a text holds; a text without a document holds nothing. -/
def read : Reader := fun text => do
  let tokens ← (tokens text).mapError Malformation.toFault
  match ← Node.ofTokens tokens with
  | some node => node.document (tokens.length + 1)
  | none => return .null

end ServiceContract.Yaml
