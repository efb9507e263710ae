import FortranStyle.Yaml.Scalar

/-!
# Tokens of a YAML text

Brackets, dashes and colons become tokens of their own, and so do changes of
indentation: a block opens where a dash, a question mark or a key is indented
further than the block around it, and closes where the indentation falls back.

A key is known as such only when its colon comes.  The place of each token that may
be a key is kept until then, and the key's token is put in at that place.  Malformed
texts have no tokens.
-/

namespace FortranStyle.Yaml

/-- A token of a YAML text. -/
inductive Token
  | directive (name : String)
  | documentStart
  | documentEnd
  | blockSequenceStart
  | blockMappingStart
  | blockEnd
  | flowSequenceStart
  | flowSequenceEnd
  | flowMappingStart
  | flowMappingEnd
  | blockEntry
  | flowEntry
  | key
  | value
  | alias (name : String)
  | anchor (name : String)
  | tag (name : String)
  | scalar (text : String) (isPlain : Bool)
deriving DecidableEq, Repr

/-- A token that may turn out to be a key. -/
structure PossibleKey where
  /-- The number of tokens before it. -/
  position : Nat
  /-- Whether nothing but a key can stand here. -/
  isRequired : Bool
  cursor : Cursor

/-- What is known between two tokens. -/
structure TokenState where
  cursor : Cursor
  tokens : Array Token
  /-- The column of the innermost open block; negative when none is open. -/
  indent : Int
  /-- The columns of the blocks around it. -/
  outerIndents : List Int
  /-- Whether a key may start here. -/
  allowsKey : Bool
  /-- The token that may be a key, in the innermost flow collection. -/
  possibleKey : Option PossibleKey
  /-- The same for the collections around it; as many as are open. -/
  outerKeys : List (Option PossibleKey)

namespace TokenState

/-- Before the first token. -/
def start (text : List Char) : TokenState :=
  ⟨Cursor.start text, #[], -1, [], true, none, []⟩

/-- Whether a flow collection is open. -/
def isInFlow (state : TokenState) : Bool :=
  !state.outerKeys.isEmpty

/-- Add a token at the end. -/
def push (state : TokenState) (token : Token) : TokenState :=
  { state with tokens := state.tokens.push token }

/-- Put tokens in at a place. -/
def insertAt (state : TokenState) (position : Nat) (tokens : List Token) : TokenState :=
  { state with
    tokens := state.tokens.extract 0 position ++ tokens.toArray ++
      state.tokens.extract position state.tokens.size }

/-- Go on by some characters. -/
def skip (state : TokenState) (count : Nat) : TokenState :=
  { state with cursor := state.cursor.skip count }

/-! ## Keys -/

/-- Whether a token can no longer be a key: keys are short and on one line. -/
def isStale (cursor : Cursor) (key : PossibleKey) : Bool :=
  key.cursor.line != cursor.line || cursor.index - key.cursor.index > 1024

/-- Forget the tokens that can no longer be keys. -/
def dropStale? (state : TokenState) : Option TokenState :=
  let keys := state.possibleKey :: state.outerKeys
  if keys.any (·.any fun key => isStale state.cursor key && key.isRequired) then none
  else
    let fresh := Option.filter fun key => !isStale state.cursor key
    some { state with
      possibleKey := fresh state.possibleKey
      outerKeys := state.outerKeys.map fresh }

/-- Forget the token that may be a key here. -/
def dropKey? (state : TokenState) : Option TokenState :=
  if state.possibleKey.any (·.isRequired) then none
  else some { state with possibleKey := none }

/-- Note that the token which comes next may be a key. -/
def saveKey? (state : TokenState) : Option TokenState :=
  if !state.allowsKey then some state
  else
    state.dropKey?.map fun state =>
      let isRequired := !state.isInFlow && state.indent == (state.cursor.column : Int)
      { state with possibleKey := some ⟨state.tokens.size, isRequired, state.cursor⟩ }

/-! ## Blocks -/

/-- Open a block at a column, if it is indented further; whether it was opened. -/
def openBlock (state : TokenState) (column : Nat) : TokenState × Bool :=
  if state.indent < column then
    ({ state with indent := column, outerIndents := state.indent :: state.outerIndents }, true)
  else
    (state, false)

/-- The number of blocks to close at a column, and the blocks left open. -/
def blocksAfter (column : Int) : Int → List Int → Nat × Int × List Int
  | indent, [] => (0, indent, [])
  | indent, outer :: rest =>
      if column < indent then
        let (count, left) := blocksAfter column outer rest
        (count + 1, left)
      else (0, indent, outer :: rest)

/-- Close the blocks that are indented further than a column. -/
def closeBlocks (state : TokenState) (column : Int) : TokenState :=
  if state.isInFlow then state
  else
    let (count, indent, outer) := blocksAfter column state.indent state.outerIndents
    { state with
      tokens := state.tokens ++ Array.replicate count .blockEnd
      indent := indent
      outerIndents := outer }

/-- Open a block at the cursor for an entry or a key that is marked by a sign; no
sign may follow other text on its line. -/
def openMarked? (state : TokenState) (opening : Token) : Option TokenState :=
  if state.isInFlow then some state
  else if !state.allowsKey then none
  else
    match state.openBlock state.cursor.column with
    | (state, true) => some (state.push opening)
    | (state, false) => some state

/-! ## Single tokens -/

/-- A marker or a directive: it closes all blocks. -/
def closeAll? (state : TokenState) : Option TokenState :=
  (state.closeBlocks (-1)).dropKey?.map fun state => { state with allowsKey := false }

/-- A marker between documents. -/
def marker? (state : TokenState) (token : Token) : Option TokenState :=
  state.closeAll?.map fun state => (state.push token).skip 3

/-- The start of a flow collection. -/
def flowStart? (state : TokenState) (token : Token) : Option TokenState :=
  state.saveKey?.map fun state =>
    { (state.push token).skip 1 with
      allowsKey := true
      possibleKey := none
      outerKeys := state.possibleKey :: state.outerKeys }

/-- The end of a flow collection. -/
def flowEnd? (state : TokenState) (token : Token) : Option TokenState :=
  state.dropKey?.bind fun state =>
    match state.outerKeys with
    | [] => none
    | key :: outer =>
        some { (state.push token).skip 1 with
          allowsKey := false, possibleKey := key, outerKeys := outer }

/-- A comma in a flow collection. -/
def flowEntry? (state : TokenState) : Option TokenState :=
  state.dropKey?.map fun state =>
    { (state.push .flowEntry).skip 1 with allowsKey := true }

/-- The dash of a list entry. -/
def blockEntry? (state : TokenState) : Option TokenState :=
  (state.openMarked? .blockSequenceStart).bind fun state =>
    state.dropKey?.map fun state =>
      { (state.push .blockEntry).skip 1 with allowsKey := true }

/-- The question mark of a key. -/
def key? (state : TokenState) : Option TokenState :=
  (state.openMarked? .blockMappingStart).bind fun state =>
    state.dropKey?.map fun state =>
      { (state.push .key).skip 1 with allowsKey := !state.isInFlow }

/-- The colon of a value.  It makes a key of the token before it. -/
def value? (state : TokenState) : Option TokenState :=
  match state.possibleKey with
  | some key =>
      let (state, isOpened) :=
        if state.isInFlow then (state, false) else state.openBlock key.cursor.column
      let opening := if isOpened then [.blockMappingStart, .key] else [.key]
      let state := (state.insertAt key.position opening).push .value
      some { state.skip 1 with possibleKey := none, allowsKey := false }
  | none =>
      (state.openMarked? .blockMappingStart).map fun state =>
        { (state.push .value).skip 1 with allowsKey := !state.isInFlow }

/-- A token that can be a key, read by itself. -/
def word? (state : TokenState) (read : Cursor → Option (Token × Cursor)) : Option TokenState :=
  state.saveKey?.bind fun state =>
    (read state.cursor).map fun (token, cursor) =>
      { state.push token with allowsKey := false, cursor := cursor }

/-- A plain scalar.  A key may follow the line end that ends it. -/
def plain? (state : TokenState) : Option TokenState :=
  state.saveKey?.map fun state =>
    let (text, hasBreak, cursor) :=
      Scalar.plain state.isInFlow (state.indent + 1) state.cursor
    { state.push (.scalar (String.ofList text) true) with
      allowsKey := hasBreak, cursor := cursor }

/-- A scalar in a block of its own. -/
def blockScalar? (state : TokenState) (isFolded : Bool) : Option TokenState :=
  state.dropKey?.bind fun state =>
    (Scalar.block? isFolded state.indent state.cursor.next).map fun (text, cursor) =>
      { state.push (.scalar (String.ofList text) false) with
        allowsKey := true, cursor := cursor }

end TokenState

namespace Token

/-! ## Words -/

/-- A character of an anchor's or a directive's name. -/
def isNameChar (c : Char) : Bool :=
  c.isAlphanum || c == '-' || c == '_'

/-- The anchor or alias behind its sign. -/
def anchorName? (cursor : Cursor) : Option (String × Cursor) :=
  let (name, cursor) := cursor.span isNameChar
  if name.isEmpty || !endsWord cursor.rest ['?', ':', ',', ']', '}', '%', '@', '\x60'] then none
  else some (String.ofList name, cursor)

/-- The whole text of a tag, which a space ends. -/
def tag? (cursor : Cursor) : Option (Token × Cursor) :=
  let (name, cursor) := cursor.span (!isSpace ·)
  if cursor.isAt '\t' then none else some (.tag (String.ofList name), cursor)

/-- A quoted scalar. -/
def quoted? (quote : Char) (cursor : Cursor) : Option (Token × Cursor) :=
  (Scalar.quoted? quote cursor.next).map fun (text, cursor) =>
    (.scalar (String.ofList text) false, cursor)

/-- The place behind the version of a directive: two numbers with a point between
them, the first of them one. -/
def version? (cursor : Cursor) : Option Cursor :=
  let (major, cursor) := (cursor.skipWhile (· == ' ')).span Char.isDigit
  let (minor, behind) := cursor.next.span Char.isDigit
  if major.dropWhile (· == '0') = ['1'] ∧ cursor.isAt '.' ∧ minor ≠ [] then some behind else none

/-- A directive behind its sign, and the place behind its line. -/
def directive? (cursor : Cursor) : Option (Token × Cursor) :=
  let (word, cursor) := cursor.span isNameChar
  let name := String.ofList word
  if word.isEmpty || !endsWord cursor.rest [] then none
  else if name = "YAML" then
    ((version? cursor).bind Scalar.emptyLine?).map fun cursor => (.directive name, cursor)
  else some (.directive name, cursor.skipWhile (!isBreak ·))

/-- Whether a plain scalar starts here. -/
def startsPlain (inFlow : Bool) : List Char → Bool
  | [] => false
  | c :: rest =>
      if isSpace c then false
      else if c = '-' ∨ (!inFlow ∧ (c = '?' ∨ c = ':')) then !endsWord rest []
      else !("?:,[]\x7b\x7d#&*!|>'\"%@\x60".toList.contains c)

/-! ## The tokens of a text -/

/-- Skip spaces, comments and line ends.  A key may start on a new line, outside
flow collections. -/
def skipBlanks : (fuel : Nat) → TokenState → TokenState
  | 0, state => state
  | fuel + 1, state =>
      let cursor := state.cursor.skipWhile (· == ' ')
      let cursor := if cursor.isAt '#' then cursor.skipWhile (!isBreak ·) else cursor
      match cursor.lineBreak? with
      | some (_, cursor) =>
          skipBlanks fuel
            { state with cursor := cursor, allowsKey := state.allowsKey || !state.isInFlow }
      | none => { state with cursor := cursor }

/-- Skip a byte order mark at the start of the text. -/
def skipMark (state : TokenState) : TokenState :=
  if state.cursor.index = 0 ∧ state.cursor.isAt '\ufeff' then
    { state with cursor := state.cursor.next }
  else state

/-- Read the token that starts with a character. -/
def read? (state : TokenState) (c : Char) (rest : List Char) : Option TokenState :=
  let isAlone := endsWord rest []
  let atMargin := state.cursor.column == 0
  if c = '%' ∧ atMargin then
    state.closeAll?.bind fun state =>
      (directive? state.cursor.next).map fun (token, cursor) =>
        { state.push token with cursor := cursor }
  else if atMargin ∧ state.cursor.isAtMarker '-' then state.marker? .documentStart
  else if atMargin ∧ state.cursor.isAtMarker '.' then state.marker? .documentEnd
  else
    match c with
    | '[' => state.flowStart? .flowSequenceStart
    | '{' => state.flowStart? .flowMappingStart
    | ']' => state.flowEnd? .flowSequenceEnd
    | '}' => state.flowEnd? .flowMappingEnd
    | ',' => state.flowEntry?
    | _ =>
      if c = '-' ∧ isAlone then
        if state.isInFlow then none else state.blockEntry?
      else if c = '?' ∧ (state.isInFlow ∨ isAlone) then state.key?
      else if c = ':' ∧ (state.isInFlow ∨ isAlone) then state.value?
      else if c = '*' then
        state.word? fun cursor =>
          (anchorName? cursor.next).map fun (name, cursor) => (.alias name, cursor)
      else if c = '&' then
        state.word? fun cursor =>
          (anchorName? cursor.next).map fun (name, cursor) => (.anchor name, cursor)
      else if c = '!' then state.word? tag?
      else if c = '|' ∧ !state.isInFlow then state.blockScalar? false
      else if c = '>' ∧ !state.isInFlow then state.blockScalar? true
      else if c = '\'' ∨ c = '"' then state.word? (quoted? c)
      else if startsPlain state.isInFlow (c :: rest) then state.plain?
      else none

/-- Read tokens up to the end of the text.  Every token takes at least a character. -/
def readAll? : (fuel : Nat) → TokenState → Option (Array Token)
  | 0, _ => none
  | fuel + 1, state =>
      (skipBlanks (state.cursor.rest.length + 1) (skipMark state)).dropStale?.bind fun state =>
        let state := state.closeBlocks state.cursor.column
        match state.cursor.rest with
        | [] => state.closeAll?.map (·.tokens)
        | c :: rest => (read? state c rest).bind (readAll? fuel)

/-- The tokens of a text, or nothing when it is malformed. -/
def ofText? (text : List Char) : Option (List Token) :=
  if text.all isAllowed then
    (readAll? (text.length + 2) (.start text)).map Array.toList
  else none

end Token

end FortranStyle.Yaml
