import FortranStyle.Yaml.Token

/-!
# The tree of a YAML text

The tokens of a text make up one document: a tree of scalars, lists and mappings.
Where a value is left out stands an empty scalar.  An alias is replaced by the node
that its anchor marks; a node may not contain itself.
-/

namespace FortranStyle.Yaml

/-- A node, with its tag where one is written. -/
inductive Node
  | scalar (tag : Option String) (text : String) (isPlain : Bool)
  | sequence (tag : Option String) (items : List Node)
  | mapping (tag : Option String) (entries : List (Node × Node))
deriving Inhabited

namespace Node

/-- What stands for a value that is left out. -/
def empty : Node :=
  scalar none "" true

/-- The tokens left to read and the nodes that anchors mark. -/
structure Pending where
  tokens : List Token
  anchors : List (String × Node)

/-- Reading a part of the tokens, which fails when they do not fit. -/
abbrev Reading := StateT Pending Option

/-- The next token. -/
def peek : Reading (Option Token) :=
  return (← get).tokens.head?

/-- Go on behind the next token. -/
def drop : Reading Unit :=
  modify fun pending => { pending with tokens := pending.tokens.tail }

/-- Take the next token, if it is the given one; whether it was. -/
def take (token : Token) : Reading Bool := do
  if (← peek) == some token then
    drop
    return true
  else
    return false

/-- Take the given token. -/
def expect (token : Token) : Reading Unit := do
  guard (← take token)

/-- Take the next token, if it has the wanted content. -/
def takeName (name? : Token → Option String) : Reading (Option String) := do
  match (← peek).bind name? with
  | some name =>
      drop
      return some name
  | none => return none

/-- Take an anchor. -/
def takeAnchor : Reading (Option String) :=
  takeName fun
    | .anchor name => some name
    | _ => none

/-- Take a tag. -/
def takeTag : Reading (Option String) :=
  takeName fun
    | .tag name => some name
    | _ => none

/-- The anchor and the tag of a node, which stand in either order. -/
def takeProperties : Reading (Option String × Option String) := do
  match ← takeAnchor with
  | some name => return (some name, ← takeTag)
  | none =>
      let tag ← takeTag
      if tag.isSome then return (← takeAnchor, tag) else return (none, none)

/-- Mark a node by an anchor.  No two nodes have the same anchor. -/
def mark (anchor : Option String) (node : Node) : Reading Node := do
  match anchor with
  | none => return node
  | some name =>
      guard ((← get).anchors.lookup name).isNone
      modify fun pending => { pending with anchors := (name, node) :: pending.anchors }
      return node

/-- Where a node stands: in a flow collection, in a block, or as the value of a key
in a block, where the entries of a list need no indentation. -/
inductive Place
  | flow
  | block
  | blockValue
deriving DecidableEq

/-- The tokens before which a key or a value of a block mapping is left out. -/
def blockStops : List Token :=
  [.key, .value, .blockEnd]

mutual

/-- Read a node. -/
def read (place : Place) : (fuel : Nat) → Reading Node
  | 0 => failure
  | fuel + 1 => do
      match ← peek with
      | some (.alias name) =>
          drop
          ((← get).anchors.lookup name).elim failure pure
      | _ =>
          let (anchor, tag) ← takeProperties
          mark anchor (← readContent place anchor tag fuel)

/-- Read a node behind its properties. -/
def readContent (place : Place) (anchor tag : Option String) : (fuel : Nat) → Reading Node
  | 0 => failure
  | fuel + 1 => do
      match ← peek, place with
      | some .blockEntry, .blockValue => return sequence tag (← readEntries fuel)
      | some (.scalar text isPlain), _ =>
          drop
          return scalar tag text isPlain
      | some .flowSequenceStart, _ =>
          drop
          return sequence tag (← readFlowItems true fuel)
      | some .flowMappingStart, _ =>
          drop
          return mapping tag (← readFlowPairs true fuel)
      | some .blockSequenceStart, .block | some .blockSequenceStart, .blockValue =>
          drop
          let items ← readItems fuel
          return sequence tag items
      | some .blockMappingStart, .block | some .blockMappingStart, .blockValue =>
          drop
          return mapping tag (← readPairs fuel)
      | _, _ =>
          guard (anchor.isSome || tag.isSome)
          return scalar tag "" tag.isNone

/-- Read a node, or nothing before some tokens. -/
def readUnless (stops : List Token) (place : Place) : (fuel : Nat) → Reading Node
  | 0 => failure
  | fuel + 1 => do
      if (← peek).any stops.contains then return empty else read place fuel

/-- Read the entries of a list in a block of its own, and the end of the block. -/
def readItems : (fuel : Nat) → Reading (List Node)
  | 0 => failure
  | fuel + 1 => do
      if ← take .blockEntry then
        let item ← readUnless [.blockEntry, .blockEnd] .block fuel
        return item :: (← readItems fuel)
      else
        expect .blockEnd
        return []

/-- Read the entries of a list that stands as a value at the indentation of its
key. -/
def readEntries : (fuel : Nat) → Reading (List Node)
  | 0 => failure
  | fuel + 1 => do
      if ← take .blockEntry then
        let item ← readUnless (.blockEntry :: blockStops) .block fuel
        return item :: (← readEntries fuel)
      else
        return []

/-- Read the entries of a mapping in a block, and the end of the block. -/
def readPairs : (fuel : Nat) → Reading (List (Node × Node))
  | 0 => failure
  | fuel + 1 => do
      if ← take .key then
        let key ← readUnless blockStops .blockValue fuel
        let value ← if ← take .value then readUnless blockStops .blockValue fuel else pure empty
        return (key, value) :: (← readPairs fuel)
      else
        expect .blockEnd
        return []

/-- Read a key and its value behind the key's token, in a flow collection. -/
def readFlowPair (stop : Token) : (fuel : Nat) → Reading (Node × Node)
  | 0 => failure
  | fuel + 1 => do
      let key ← readUnless [.value, .flowEntry, stop] .flow fuel
      let value ← if ← take .value then readUnless [.flowEntry, stop] .flow fuel else pure empty
      return (key, value)

/-- Read the entries of a list in brackets.  A key there starts a mapping of a
single entry. -/
def readFlowItems (isFirst : Bool) : (fuel : Nat) → Reading (List Node)
  | 0 => failure
  | fuel + 1 => do
      if ← take .flowSequenceEnd then return []
      if !isFirst then expect .flowEntry
      if ← take .key then
        let pair ← readFlowPair .flowSequenceEnd fuel
        return mapping none [pair] :: (← readFlowItems false fuel)
      else if ← take .flowSequenceEnd then return []
      else
        let item ← read .flow fuel
        return item :: (← readFlowItems false fuel)

/-- Read the entries of a mapping in braces.  A key may have no value. -/
def readFlowPairs (isFirst : Bool) : (fuel : Nat) → Reading (List (Node × Node))
  | 0 => failure
  | fuel + 1 => do
      if ← take .flowMappingEnd then return []
      if !isFirst then expect .flowEntry
      if ← take .key then
        let pair ← readFlowPair .flowMappingEnd fuel
        return pair :: (← readFlowPairs false fuel)
      else if ← take .flowMappingEnd then return []
      else
        let key ← read .flow fuel
        return (key, empty) :: (← readFlowPairs false fuel)

end

/-- Take the directives before a document.  The version is given once at most. -/
def takeDirectives : (tokens : List Token) → Option (List String × List Token)
  | .directive name :: rest => do
      let (names, rest) ← takeDirectives rest
      guard (name ≠ "YAML" ∨ ¬ names.contains "YAML")
      return (name :: names, rest)
  | rest => some ([], rest)

/-- Whether a token stands at the end of a document. -/
def endsDocument : Token → Bool
  | .directive _ | .documentStart | .documentEnd => true
  | _ => false

/-- Read the node of a document and check that no further document follows. -/
def document? (tokens : List Token) : Option Node := do
  let (node, pending) ← read .block (5 * tokens.length + 5) ⟨tokens, []⟩
  guard (pending.tokens.all (· == .documentEnd))
  return node

/-- The tree of some tokens: nothing inside when they hold no document, and
nothing at all when they do not fit together. -/
def ofTokens? (tokens : List Token) : Option (Option Node) := do
  let (directives, rest) ← takeDirectives tokens
  match rest with
  | .documentStart :: content =>
      match content with
      | [] => return some empty
      | token :: others =>
          if endsDocument token then
            guard ((token :: others).all (· == .documentEnd))
            return some empty
          else
            return some (← document? content)
  | [] =>
      guard directives.isEmpty
      return none
  | rest =>
      guard directives.isEmpty
      return some (← document? rest)

end Node

end FortranStyle.Yaml
