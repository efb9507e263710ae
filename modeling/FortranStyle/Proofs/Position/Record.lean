import FortranStyle.Proofs.Position.Specification
import FortranStyle.Proofs.Position.Stack

/-!
# Recording by position

What statements record, on a stack of blocks that may refuse.  A state erases to one
with such a stack; every recording function goes the same way on both.
-/

namespace FortranStyle.Position

/-! ## States -/

/-- The state of a scan by position: the stack, and what else is known. -/
structure State where
  stack : List Block
  /-- A state without open blocks. -/
  found : ScanState

/-- The state with the frames of a state as its stack. -/
def State.ofScan (state : ScanState) : State :=
  ⟨state.frames.map .ofFrame, { state with frames := [] }⟩

namespace State

/-- Change the innermost program unit or procedure. -/
def mapScope (state : State) (change : Block → Attempt Block) : Attempt State := do
  let stack ← mapInnermost BlockKind.isScope change state.stack
  pure { state with stack }

/-- Change the innermost program unit. -/
def mapUnit (state : State) (change : Block → Attempt Block) : Attempt State := do
  let stack ← mapInnermost isUnit change state.stack
  pure { state with stack }

/-- Open a block. -/
def push (state : State) (block : Block) : State :=
  { state with stack := block :: state.stack }

/-- Record an error at a token. -/
def report (state : State) (cause : StructuralCause) (token : Token) : State :=
  { state with found := state.found.report cause token }

/-- Record the depth of the line of a token. -/
def recordDepth (state : State) (token : Token) (depth : Nat) : State :=
  { state with found := state.found.recordDepth token depth }

end State

/-- The block with another node, which is a program unit or procedure. -/
def Block.withNode (block : Block) (node : ScopeNode) : Block :=
  { block with node := .ofScope node }

section States

variable (state : ScanState)

theorem mapScope_eq {change : Block → Attempt Block} {f : Scope → Scope}
    (changes : ∀ scope, change (.ofScope scope) = some (.ofScope (f scope))) :
    (State.ofScan state).mapScope change =
      some (.ofScan (state.mapFrames (Frames.mapScope f))) := by
  simp only [State.mapScope, State.ofScan, mapInnermost_isScope changes]
  rfl

theorem mapUnit_eq {change : Block → Attempt Block} {f : ProgramUnit → ProgramUnit}
    (changes : ∀ opener node inSpecification nested,
      change (.ofScope ⟨opener, .programUnit node, inSpecification, nested⟩) =
        some (.ofScope ⟨opener, .programUnit (f node), inSpecification, nested⟩)) :
    (State.ofScan state).mapUnit change =
      some (.ofScan (state.mapFrames (Frames.mapProgramUnit f))) := by
  simp only [State.mapUnit, State.ofScan, mapInnermost_isUnit changes]
  rfl

/-- A change of a node that keeps the heading of its block. -/
theorem mapNode_eq {change : Block → Attempt Block} {f : ScopeNode → ScopeNode}
    (keeps : ScopeNode.Keeps f)
    (changes : ∀ scope,
      change (.ofScope scope) = some ((Block.ofScope scope).withNode (f scope.node))) :
    (State.ofScan state).mapScope change = some (.ofScan (state.mapNode f)) := by
  apply mapScope_eq
  intro scope
  obtain ⟨kind_eq, name_eq⟩ := keeps scope.node
  rw [changes]
  simp [Block.withNode, Block.ofScope, kind_eq, name_eq]

/-- Whether the innermost scope takes specification statements. -/
theorem innermost?_any_inSpecification :
    (innermost? BlockKind.isScope (State.ofScan state).stack).any (·.inSpecification) =
      (Frames.scope? state.frames).any (·.inSpecification) := by
  rw [State.ofScan, innermost?_isScope]
  cases Frames.scope? state.frames <;> rfl

@[simp]
theorem recordDepth_eq (token : Token) (depth : Nat) :
    (State.ofScan state).recordDepth token depth = .ofScan (state.recordDepth token depth) :=
  rfl

@[simp]
theorem report_eq (cause : StructuralCause) (token : Token) :
    (State.ofScan state).report cause token = .ofScan (state.report cause token) :=
  rfl

end States

/-! ## Executable statements -/

/-- The innermost scope changed by an executable statement. -/
def Scope.afterAction (action : Option Statement.Action) (scope : Scope) : Scope :=
  { scope with
    inSpecification := false
    node := match action with
      | some action =>
          scope.node.mapProcedure fun node => { node with actions := node.actions ++ [action] }
      | none => scope.node }

/-- Record an executable statement. -/
def State.recordExecutable (state : State) (tokens : List Token) : Attempt State :=
  state.mapScope fun block => do
    let block := { block with inSpecification := false }
    if isProcedure block.kind then
      let node ← block.node.procedure?
      match ← action? tokens with
      | some action =>
          pure (block.withNode (.procedure { node with actions := node.actions ++ [action] }))
      | none => pure block
    else
      pure block

theorem mapScope_mapScope (f g : Scope → Scope) (frames : List Frame) :
    Frames.mapScope f (Frames.mapScope g frames) = Frames.mapScope (f ∘ g) frames := by
  induction frames with
  | nil => rfl
  | cons frame rest ih =>
    cases frame with
    | scope scope => rfl
    | interface _ _ => exact congrArg (_ :: ·) ih
    | derivedType _ _ => exact congrArg (_ :: ·) ih
    | construct _ _ => exact congrArg (_ :: ·) ih

theorem recordExecutable_eq (state : ScanState) {tokens : List Token} (filled : tokens ≠ []) :
    (State.ofScan state).recordExecutable tokens =
      some (.ofScan (state.recordExecutable tokens)) := by
  have recorded : state.recordExecutable tokens =
      state.mapFrames (Frames.mapScope (Scope.afterAction (Statement.action? tokens))) := by
    rw [ScanState.recordExecutable]
    cases Statement.action? tokens with
    | none => rfl
    | some action =>
      exact congrArg (fun frames => { state with frames }) (mapScope_mapScope _ _ _)
  rw [recorded]
  apply mapScope_eq
  rintro ⟨opener, node, inSpecification, nested⟩
  rw [action?_eq filled]
  cases node with
  | programUnit node => cases Statement.action? tokens <;> rfl
  | procedure node => cases Statement.action? tokens <;> rfl

/-! ## Specification statements -/

/-- Record a declaration in a node. -/
def declareIn (constants : List String) (kind : BlockKind) (node : Node)
    (declaration : Declaration) : Attempt Node := do
  if isProcedure kind then
    pure (.procedure ((← node.procedure?).declare constants declaration))
  else
    pure (.programUnit ((← node.programUnit?).declare declaration))

/-- Record a type declaration statement. -/
def State.recordDeclaration (state : State) (tokens : List Token) : Attempt State :=
  state.mapScope fun block => do
    let constants ← unitConstants state.stack
    let declarations ← declarations tokens
    let node ← declarations.foldlM (declareIn constants block.kind) block.node
    pure { block with node }

theorem declareIn_eq (constants : List String) (declarations : List Declaration)
    (node : ScopeNode) :
    declarations.foldlM (declareIn constants node.kind) (Node.ofScope node) =
      some (.ofScope (declarations.foldl (ScopeNode.declare constants) node)) := by
  induction declarations generalizing node with
  | nil => rfl
  | cons declaration rest ih =>
    have declared : declareIn constants node.kind (.ofScope node) declaration =
        some (.ofScope (node.declare constants declaration)) := by
      cases node <;> rfl
    have kind_eq := (node.declare_same constants declaration).1
    rw [List.foldlM_cons, declared, List.foldl_cons, ← ih, kind_eq]
    rfl

theorem recordDeclaration_eq (state : ScanState) {tokens : List Token} (filled : tokens ≠ []) :
    (State.ofScan state).recordDeclaration tokens =
      some (.ofScan (state.recordDeclaration tokens)) := by
  apply mapNode_eq state (ScopeNode.keeps_declare _ _)
  intro scope
  rw [State.ofScan, unitConstants_eq, declarations_eq filled]
  simp only [Option.bind_eq_bind, Option.bind_some, Block.ofScope, declareIn_eq]
  rfl

/-- Record a USE statement. -/
def State.recordUse (state : State) (tokens : List Token) : Attempt State := do
  match ← use? tokens with
  | none => pure state
  | some item =>
      if (innermost? BlockKind.isScope state.stack).any (·.inSpecification) then
        state.mapScope fun block => do
          let node ← block.node.scope?
          pure (block.withNode (node.mapSpecification fun specification =>
            { specification with uses := specification.uses ++ [item] }))
      else
        let misplacedUses := state.found.misplacedUses ++ [item]
        pure { state with found := { state.found with misplacedUses } }

theorem recordUse_eq (state : ScanState) {tokens : List Token} (filled : tokens ≠ []) :
    (State.ofScan state).recordUse tokens = some (.ofScan (state.recordUse tokens)) := by
  rw [State.recordUse, use?_eq filled, ScanState.recordUse]
  cases Use.ofStatement? tokens with
  | none => rfl
  | some item =>
    simp only [Option.bind_eq_bind, Option.bind_some, innermost?_any_inSpecification]
    split
    · exact mapNode_eq state (ScopeNode.keeps_mapSpecification _)
        fun scope => by simp [Block.ofScope]
    · rfl

/-- Record IMPLICIT NONE. -/
def State.recordImplicit (state : State) (tokens : List Token) : Attempt State := do
  if ← guarded ((innermost? BlockKind.isScope state.stack).any (·.inSpecification))
      (guarded (1 < tokens.length) (tokens[1]?.map (·.isWord "none"))) then
    state.mapScope fun block => do
      let node ← block.node.scope?
      pure (block.withNode (node.mapSpecification fun specification =>
        { specification with implicitNone := true }))
  else
    pure state

theorem recordImplicit_eq (state : ScanState) (tokens : List Token) :
    (State.ofScan state).recordImplicit tokens = some (.ofScan (state.recordImplicit tokens)) := by
  rw [State.recordImplicit, ScanState.recordImplicit, innermost?_any_inSpecification]
  simp only [guarded_getElem?, guarded_some, List.head?_drop, Option.bind_eq_bind,
    Option.bind_some, Bool.decide_eq_true]
  split
  · exact mapNode_eq state (ScopeNode.keeps_mapSpecification _)
      fun scope => by simp [Block.ofScope]
  · rfl

/-- Record a SAVE statement. -/
def State.recordSave (state : State) (tokens : List Token) : Attempt State :=
  state.mapScope fun block => do
    let node ← block.node.scope?
    let word ← tokens[0]?
    pure (block.withNode (node.mapSpecification fun specification =>
      { specification with saves := specification.saves ++ [word] }))

theorem recordSave_eq (state : ScanState) (word : Token) (rest : List Token) :
    (State.ofScan state).recordSave (word :: rest) = some (.ofScan (state.recordSave word)) :=
  mapNode_eq state (ScopeNode.keeps_mapSpecification _) fun scope => by simp [Block.ofScope]

/-! ## Visibility -/

/-- Make the name of an item public or private. -/
def grantItem (visibility : Visibility) (node : ProgramUnit) (item : List Token) :
    Attempt ProgramUnit := do
  if item.isEmpty then pure node
  else pure (node.grant (some visibility) (Statement.localName item) (← item[0]?))

/-- Record a PUBLIC or PRIVATE statement in a program unit. -/
def accessIn (visibility : Visibility) (tokens : List Token) (node : ProgramUnit) :
    Attempt ProgramUnit := do
  let word ← tokens[0]?
  let rest := tokens.drop 1
  let hasColons ← guarded (0 < rest.length) (rest[0]?.map (·.isOp "::"))
  let rest := if hasColons then rest.drop 1 else rest
  if rest.isEmpty then pure { node with access := some (visibility, word) }
  else (Bracket.items rest).foldlM (grantItem visibility) node

/-- Record a PUBLIC or PRIVATE statement. -/
def State.recordAccess (state : State) (visibility : Visibility) (tokens : List Token) :
    Attempt State :=
  state.mapScope fun block => do
    if isModule block.kind then
      let node ← accessIn visibility tokens (← block.node.programUnit?)
      pure (block.withNode (.programUnit node))
    else
      pure block

theorem accessIn_eq (visibility : Visibility) (word : Token) (rest : List Token)
    (node : ProgramUnit) :
    accessIn visibility (word :: rest) node =
      some (node.recordAccess visibility word
        (if rest.head?.any (·.isOp "::") then rest.drop 1 else rest)) := by
  simp only [accessIn, List.getElem?_cons_zero, List.drop_succ_cons, List.drop_zero,
    guarded_getElem?, Option.bind_eq_bind, Option.bind_some, ProgramUnit.recordAccess]
  generalize (if rest.head?.any (·.isOp "::") then rest.drop 1 else rest) = listed
  cases listed with
  | nil => rfl
  | cons token more => exact foldlM_eq (fun found item => by cases item <;> rfl) _ _

theorem recordAccess_eq (state : ScanState) (visibility : Visibility) (word : Token)
    (rest : List Token) :
    (State.ofScan state).recordAccess visibility (word :: rest) =
      some (.ofScan (state.recordAccess visibility word rest)) := by
  apply mapNode_eq state
  · apply ScopeNode.keeps_mapUnit
    intro node
    split
    · exact node.recordAccess_same ..
    · exact ⟨rfl, rfl⟩
  rintro ⟨opener, node, inSpecification, nested⟩
  cases node with
  | programUnit node =>
    have kind_eq : isModule (BlockKind.unit node.kind) = node.isModule := by
      simp only [isModule, isUnit, ProgramUnit.isModule]
      cases node.kind <;> decide
    simp only [Block.ofScope, ScopeNode.kind, kind_eq, Node.ofScope, Node.programUnit?,
      ScopeNode.mapUnit, accessIn_eq, Option.bind_eq_bind, Option.bind_some]
    split <;> rfl
  | procedure node => rfl

/-! ## Arguments -/

/-- Record an INTENT statement in a procedure. -/
def intentIn (tokens : List Token) (node : Procedure) : Attempt Procedure := do
  let close ← matching tokens 1
  let intent := Statement.Attributes.intentOf (tokens.extract 2 close)
  let names ← listedNames (tokens.drop close)
  pure { node with
    arguments := names.foldl (fun found name => Argument.setIntent intent name.lower found)
      node.arguments }

/-- Record an EXTERNAL statement in a procedure. -/
def externalIn (tokens : List Token) (node : Procedure) : Attempt Procedure := do
  let names ← listedNames tokens
  pure { node with
    arguments := names.foldl (fun found name => Argument.markProcedure name.lower found)
      node.arguments }

/-- Change the procedure that is the innermost scope. -/
def State.mapProcedure (state : State) (change : Procedure → Attempt Procedure) :
    Attempt State :=
  state.mapScope fun block => do
    if isProcedure block.kind then
      let node ← change (← block.node.procedure?)
      pure (block.withNode (.procedure node))
    else
      pure block

theorem mapProcedure_eq (state : ScanState) {change : Procedure → Attempt Procedure}
    {f : Procedure → Procedure} (changes : ∀ node, change node = some (f node))
    (same : ∀ node, (f node).kind = node.kind ∧ (f node).token = node.token) :
    (State.ofScan state).mapProcedure change = some (.ofScan (state.mapProcedure f)) := by
  apply mapNode_eq state (ScopeNode.keeps_mapProcedure same)
  rintro ⟨opener, node, inSpecification, nested⟩
  cases node with
  | programUnit node => rfl
  | procedure node =>
    simp only [Block.ofScope, ScopeNode.kind, isProcedure, Node.ofScope, Node.procedure?, changes,
      ScopeNode.mapProcedure, Option.bind_eq_bind, Option.bind_some, if_true]
    rfl

/-- Record an INTENT statement. -/
def State.recordIntent (state : State) (tokens : List Token) : Attempt State := do
  if ← guarded (1 < tokens.length) (tokens[1]?.map (·.isOp "(")) then
    state.mapProcedure (intentIn tokens)
  else
    pure state

theorem recordIntent_eq (state : ScanState) (tokens : List Token) :
    (State.ofScan state).recordIntent tokens = some (.ofScan (state.recordIntent tokens)) := by
  rw [State.recordIntent, ScanState.recordIntent, guarded_getElem?]
  simp only [Option.bind_eq_bind, Option.bind_some]
  rcases tokens with _ | ⟨word, _ | ⟨bracket, rest⟩⟩
  · rfl
  · rfl
  · simp only [List.drop_succ_cons, List.drop_zero, List.head?_cons]
    split
    · refine mapProcedure_eq state (f := fun node => { node with
        arguments := (Statement.listedNames ((bracket :: rest).drop
          (Bracket.partner (bracket :: rest)))).foldl (fun found name => Argument.setIntent
            (Statement.Attributes.intentOf (Bracket.inside (bracket :: rest))) name.lower found)
          node.arguments }) ?_ fun _ => ⟨rfl, rfl⟩
      intro node
      have behind : (word :: bracket :: rest).drop (Bracket.matching (word :: bracket :: rest) 1) =
          (bracket :: rest).drop (Bracket.partner (bracket :: rest)) := by
        rw [Bracket.matching, Nat.add_comm]
        rfl
      rw [intentIn, matching_cons_eq]
      simp only [Option.bind_eq_bind, Option.bind_some, listedNames_eq, extract_matching_cons,
        behind]
      rfl
    · rfl

theorem recordExternal_eq (state : ScanState) (tokens : List Token) :
    (State.ofScan state).mapProcedure (externalIn tokens) =
      some (.ofScan (state.recordExternal tokens)) := by
  refine mapProcedure_eq state (f := fun node => { node with
    arguments := (Statement.listedNames tokens).foldl
      (fun found name => Argument.markProcedure name.lower found) node.arguments }) ?_
    fun _ => ⟨rfl, rfl⟩
  intro node
  rw [externalIn, listedNames_eq]
  rfl

/-! ## Members of interfaces and enumerations -/

/-- Record the names of a PROCEDURE statement in the innermost block, which is an
interface. -/
def State.recordMember (state : State) (tokens : List Token) : Attempt State := do
  let first ← tokens[0]?
  let tokens := if first.isWord "module" && 1 < tokens.length then tokens.drop 1 else tokens
  if (← tokens[0]?).isWord "procedure" then
    let (block, rest) ← pop state.stack
    let node ← block.node.interface?
    let names := (← listedNames tokens).map (·.lower)
    let node := .interface { node with moduleProcedures := node.moduleProcedures ++ names }
    pure { state with stack := { block with node } :: rest }
  else
    pure state

theorem recordMember_eq {state : ScanState} {opener : Token} {block : Interface}
    {rest : List Frame} (inside : state.frames = .interface opener block :: rest)
    {tokens : List Token} (filled : tokens ≠ []) :
    (State.ofScan state).recordMember tokens = some (.ofScan (state.recordMember tokens)) := by
  obtain ⟨frames, units, external, topLevel, misplacedUses, errors, depths⟩ := state
  subst inside
  rcases tokens with _ | ⟨first, _ | ⟨second, more⟩⟩
  · exact absurd rfl filled
  · by_cases word : first.isWord "procedure" <;>
      simp [State.recordMember, ScanState.recordMember, State.ofScan, pop, word, listedNames_eq,
        Block.ofFrame, Node.interface?]
  · by_cases module : first.isWord "module"
    · by_cases word : second.isWord "procedure" <;>
        simp [State.recordMember, ScanState.recordMember, State.ofScan, pop, module, word,
          listedNames_eq, Block.ofFrame, Node.interface?]
    · by_cases word : first.isWord "procedure" <;>
        simp [State.recordMember, ScanState.recordMember, State.ofScan, pop, module, word,
          listedNames_eq, Block.ofFrame, Node.interface?]

/-- Record the names of an ENUMERATOR statement in the innermost program unit. -/
def State.recordEnumerators (state : State) (tokens : List Token) : Attempt State := do
  if (← tokens[0]?).isWord "enumerator" then
    state.mapUnit fun block => do
      let node ← block.node.programUnit?
      let names := (← listedNames tokens).map (·.lower)
      let node := .programUnit { node with enumerators := node.enumerators ++ names }
      pure { block with node }
  else
    pure state

theorem recordEnumerators_eq (state : ScanState) {tokens : List Token} (filled : tokens ≠ []) :
    (State.ofScan state).recordEnumerators tokens =
      some (.ofScan (state.recordEnumerators tokens)) := by
  obtain ⟨first, rest, rfl⟩ := List.exists_cons_of_ne_nil filled
  cases word : first.isWord "enumerator" with
  | true =>
    have recorded : state.recordEnumerators (first :: rest) =
        state.mapFrames (Frames.mapProgramUnit fun node => { node with
          enumerators := node.enumerators ++
            (Statement.listedNames (first :: rest)).map (·.lower) }) := if_pos word
    simp only [State.recordEnumerators, List.getElem?_cons_zero, Option.bind_eq_bind,
      Option.bind_some, word, if_true, listedNames_eq, recorded]
    exact mapUnit_eq state fun opener node inSpecification nested => rfl
  | false => simp [State.recordEnumerators, ScanState.recordEnumerators, word]

end FortranStyle.Position
