import FortranStyle.Program.Record
import FortranStyle.Tokenized

/-!
# Recovering the outline of a source

Statements are read one after the other.  An assignment is an assignment however
its name is spelled; only then do words count.  A closing statement closes the
innermost block that it can mean, and blocks left open inside it are reported and
closed with it, so that a broken body does not reach past its own procedure.
-/

namespace FortranStyle

/-! ## Opening statements -/

namespace Statement

/-- The kind and the name of the program unit that a statement opens. -/
def unitHeading? : List Token → Option (UnitKind × Token)
  | [] => none
  | first :: rest =>
      if first.isWord "program" then
        some (.program, rest.headD first)
      else if first.isWord "module" then
        match rest with
        | [name] =>
            if name.isName && !name.isAmong ["procedure", "function", "subroutine"] then
              some (.module, name)
            else
              none
        | _ => none
      else if first.isWord "submodule" && rest.length ≥ 3 && startsBracket rest then
        (Bracket.beyond rest).head?.map (.submodule, ·)
      else
        none

/-- The name and the visibility of the derived type that a statement opens. -/
def typeHeading? : List Token → Option DerivedType
  | first :: second :: rest =>
      let tokens := first :: second :: rest
      if first.isWord "type" && !second.isOp "(" && !second.isWord "is" then
        let (name?, attributes) : Option Token × List String :=
          match Bracket.find? "::" tokens with
          | some colons =>
              (tokens[colons + 1]?,
                (((tokens.take colons).drop 1).filter (·.isName)).map (·.lower))
          | none => (some second, [])
        match name? with
        | some token =>
            if token.isName then some ⟨token, Declaration.visibilityIn attributes⟩ else none
        | none => none
      else
        none
  | _ => none

/-- The empty interface block that a statement opens. -/
def interfaceHeading? (tokens : List Token) : Option Interface :=
  let isAbstract := tokens.head?.any (·.isWord "abstract")
  match if isAbstract then tokens.drop 1 else tokens with
  | [] => none
  | token :: rest =>
      if token.isWord "interface" then
        let name := spelling rest
        some
          { name := if name = "" then none else some name, token, isAbstract, bodies := [],
            moduleProcedures := [] }
      else
        none

/-- Whether a statement divides an open block: CONTAINS, ELSE, CASE and the
like. -/
def isDivider (kind : BlockKind) (tokens : List Token) : Bool :=
  let first := (tokens.head?.map (·.word)).getD ""
  let second := (tokens[1]?.map (·.word)).getD ""
  if first == "contains" then kind.isScope || kind == .derivedType
  else
    match kind with
    | .construct .ifThen => first == "else" || first == "elseif"
    | .construct .whereMask => first == "elsewhere" || (first == "else" && second == "where")
    | .construct .select =>
        first == "case" || first == "rank" ||
          ((first == "type" || first == "class") && (second == "is" || second == "default"))
    | _ => false

end Statement

/-- A program unit at its start. -/
def ProgramUnit.begin (kind : UnitKind) (token : Token) (startLine : Nat) : ProgramUnit :=
  { kind, token, startLine, endLine := 0, specification := .empty, access := none,
    publicNames := [], privateNames := [], procedures := [], derivedTypes := [], interfaces := [],
    enumerators := [], containsLine := none }

/-- A procedure at its start.  In a module the name of the module is part of
what the names of its procedures have to show. -/
def Procedure.begin (header : Statement.Header) (startLine : Nat) (holder : Option Frame) :
    Procedure :=
  { kind := header.kind, token := header.name, startLine, endLine := 0, marks := header.marks,
    arguments := header.arguments.map fun token => ⟨token, none, false⟩,
    result := header.result, visibility := .isPublic,
    module := match holder with
      | some (.scope ⟨_, .programUnit node, _, _⟩) =>
          if node.isModule then some node.name else none
      | _ => none
    isInterfaceBody := match holder with
      | some (.interface ..) => true
      | _ => false
    specification := .empty, actions := [], children := [], interfaces := [] }

namespace ScanState

/-- Open the program unit that a statement starts, if it starts one. -/
def openUnit? (state : ScanState) (tokens : List Token) : Option ScanState :=
  match tokens with
  | [] => none
  | first :: _ =>
      (Statement.unitHeading? tokens).map fun (kind, name) =>
        let node := ProgramUnit.begin kind name first.line
        let announced := match Frames.scope? state.frames with
          | some outer =>
              state.report (.nestedUnit kind name.text outer.node.kind outer.node.name) first
          | none => { state with topLevel := state.topLevel ++ [Heading.mk (.unit kind) name] }
        announced.push (.scope ⟨first, .programUnit node, true, []⟩)

/-- Open the procedure that a statement starts, if it starts one. -/
def openProcedure? (state : ScanState) (tokens : List Token) : Option ScanState :=
  match tokens with
  | [] => none
  | first :: _ =>
      (Statement.header? tokens).map fun header =>
        let holder := Frames.holder? state.frames
        let node := Procedure.begin header first.line holder
        let announced :=
          if holder.isNone then
            { state with
              topLevel := state.topLevel ++ [Heading.mk (.procedure header.kind) header.name] }
          else
            state
        announced.push (.scope ⟨first, .procedure node, true, []⟩)

/-- Open the interface block that a statement starts, if it starts one. -/
def openInterface? (state : ScanState) (tokens : List Token) : Option ScanState :=
  (Statement.interfaceHeading? tokens).map fun block => state.push (.interface block.token block)

/-- Open the derived type that a statement starts, if it starts one, and record
it when the innermost scope is a program unit. -/
def openType? (state : ScanState) (tokens : List Token) : Option ScanState :=
  match tokens with
  | [] => none
  | first :: _ =>
      (Statement.typeHeading? tokens).map fun derivedType =>
        let recorded := state.mapNode (·.mapUnit fun node =>
          { node with derivedTypes := node.derivedTypes ++ [derivedType] }.grant
            derivedType.visibility derivedType.name derivedType.token)
        recorded.push (.derivedType first derivedType.name)

/-- Open the block construct that a statement starts, if it starts one.  All but
ENUM are executable. -/
def openConstruct? (state : ScanState) (tokens : List Token) : Option ScanState :=
  match tokens with
  | [] => none
  | first :: _ =>
      (Statement.construct? tokens).map fun kind =>
        let recorded :=
          if kind = .enumeration then state else state.recordExecutable tokens
        recorded.push (.construct first kind)

/-! ## Closing statements -/

/-- Report the blocks above the one that a statement on a line closes, and close
them. -/
def closeAbove (state : ScanState) (line : Nat) : Nat → ScanState
  | 0 => state
  | count + 1 =>
      match state.frames with
      | [] => state
      | frame :: _ =>
          let cause := .notClosedBefore frame.kind frame.opener.line line
          ((state.report cause frame.opener).closeTop line).closeAbove line count

/-- The name behind END, when it is not the name of the block. -/
def endMismatch? (frame : Frame) (trailing : List Token) : Option Token :=
  match trailing with
  | [] => none
  | token :: _ =>
      if frame.isScope && token.isName && token.lower != Text.lower frame.name then some token
      else none

/-- Carry out a closing statement. -/
def close (state : ScanState) (closer : Statement.Closer) (first last : Token) : ScanState :=
  match Frames.reach? closer.kind state.frames with
  | none => state.report (.unmatchedEnd closer.kind) first
  | some count =>
      let state := state.closeAbove first.line count
      let state := match state.frames with
        | [] => state
        | frame :: _ =>
            match endMismatch? frame closer.trailing with
            | some token =>
                state.report (.endNameMismatch frame.kind token.text frame.name) token
            | none => state
      state.closeTop last.line

/-- Close the blocks that the end of the source leaves open. -/
def closeAll (state : ScanState) (lastLine : Nat) : Nat → ScanState
  | 0 => state
  | count + 1 =>
      match state.frames with
      | [] => state
      | frame :: _ =>
          let cause := .neverClosed frame.kind frame.name frame.opener.line
          ((state.report cause frame.opener).closeTop lastLine).closeAll lastLine count

/-! ## One statement -/

/-- Record CONTAINS: it ends the specification part of a program unit or
procedure. -/
def recordContains (state : ScanState) (token : Token) : ScanState :=
  match state.frames with
  | .scope scope :: rest =>
      let node := scope.node.mapUnit fun node => { node with containsLine := some token.line }
      { state with frames := .scope { scope with node, inSpecification := false } :: rest }
  | _ => state

/-- Record a statement that opens and closes nothing. -/
def recordPlain (state : ScanState) (tokens : List Token) : ScanState :=
  match tokens with
  | [] => state
  | first :: rest =>
      if first.isWord "use" then state.recordUse tokens
      else if first.isWord "implicit" then state.recordImplicit tokens
      else if Statement.isDeclaration tokens then state.recordDeclaration tokens
      else if first.isWord "public" then state.recordAccess .isPublic first rest
      else if first.isWord "private" then state.recordAccess .isPrivate first rest
      else if first.isWord "intent" then state.recordIntent tokens
      else if first.isWord "save" then state.recordSave first
      else if first.isWord "external" then state.recordExternal tokens
      else if first.isAmong Vocabulary.specificationWords then state
      else state.recordExecutable tokens

/-- Record a statement inside the innermost block, by the kind of that block. -/
def recordInside (state : ScanState) (tokens : List Token) : ScanState :=
  match state.frames.head?.map Frame.kind with
  | some .derivedType => state
  | some (.construct .enumeration) => state.recordEnumerators tokens
  | some .interface => (state.openProcedure? tokens).getD (state.recordMember tokens)
  | _ =>
      (state.openUnit? tokens
        <|> state.openProcedure? tokens
        <|> state.openInterface? tokens
        <|> state.openType? tokens
        <|> state.openConstruct? tokens).getD (state.recordPlain tokens)

/-- Read one statement.  Its depth is the number of blocks around it; a closing
or dividing statement stands at the depth of the statement that opened its
block. -/
def step (state : ScanState) (statement : List Token) : ScanState :=
  match statement, Statement.unlabelled statement with
  | label :: _, first :: rest =>
      let tokens := first :: rest
      if (Statement.assignmentTarget? tokens).isSome then
        (state.recordDepth label state.depth).recordExecutable tokens
      else
        match Statement.closer? tokens with
        | some closer =>
            let closed := state.close closer first (rest.getLastD first)
            closed.recordDepth label closed.depth
        | none =>
            if (state.frames.head?.map Frame.kind).any (Statement.isDivider · tokens) then
              let divided := state.recordDepth label (state.depth - 1)
              if first.isWord "contains" then divided.recordContains first else divided
            else
              (state.recordDepth label state.depth).recordInside tokens
  | _, _ => state

/-- Read statements one after the other. -/
def run (state : ScanState) (statements : List (List Token)) : ScanState :=
  statements.foldl step state

/-- The depth recorded first for each of the lines. -/
def lineDepths (state : ScanState) (lineCount : Nat) : List (Option Nat) :=
  let depths := state.depths.reverse
  (List.range lineCount).map fun index => depths.lookup (index + 1)

end ScanState

/-- Recover the outline of some statements in a source of the given number of
lines. -/
def Outline.ofStatements (lineCount : Nat) (statements : List (List Token)) : Outline :=
  let state := ScanState.initial.run statements
  let state := state.closeAll (max lineCount 1) state.depth
  { units := state.units, external := state.external, topLevel := state.topLevel,
    lineDepths := state.lineDepths lineCount, errors := state.errors,
    misplacedUses := state.misplacedUses }

/-- Recover the outline of a source. -/
def Outline.ofTokenized (source : Tokenized) : Outline :=
  .ofStatements source.lines.length source.statements

end FortranStyle
