import FortranStyle.Proofs.Nesting.Event
import FortranStyle.Proofs.Position.Record

/-!
# Opening and closing blocks by position

A statement that opens a block pushes it; a statement that closes one looks for it by
its position on the stack, and takes off one block after the other until that is the
innermost.  What takes a block off asks its node for what the kind of the block
promises.
-/

namespace FortranStyle.Position

variable (state : ScanState) {tokens : List Token}

/-! ## Opening -/

/-- Open the program unit that a statement starts, if it starts one. -/
def State.openUnit? (state : State) (tokens : List Token) : Attempt (Option State) := do
  match ← unitHeading? tokens with
  | none => pure none
  | some (kind, name) =>
      let first ← tokens[0]?
      let node := ProgramUnit.begin kind name first.line
      let announced := match innermost? BlockKind.isScope state.stack with
        | some outer => state.report (.nestedUnit kind name.text outer.kind outer.name) first
        | none =>
            let topLevel := state.found.topLevel ++ [Heading.mk (.unit kind) name]
            { state with found := { state.found with topLevel } }
      pure (some (announced.push ⟨.unit kind, name.text, first, .programUnit node, true, []⟩))

theorem openUnit?_eq (filled : tokens ≠ []) :
    (State.ofScan state).openUnit? tokens = some ((state.openUnit? tokens).map .ofScan) := by
  obtain ⟨first, rest, rfl⟩ := List.exists_cons_of_ne_nil filled
  rw [State.openUnit?, unitHeading?_eq filled, ScanState.openUnit?]
  cases Statement.unitHeading? (first :: rest) with
  | none => rfl
  | some heading =>
    simp only [State.ofScan, innermost?_isScope, Option.bind_eq_bind, Option.bind_some]
    cases Frames.scope? state.frames <;> rfl

/-- Open the procedure that a statement starts, if it starts one. -/
def State.openProcedure? (state : State) (tokens : List Token) : Attempt (Option State) := do
  match ← header? tokens with
  | none => pure none
  | some header =>
      let first ← tokens[0]?
      let node ← (holding state.stack).map fun (module, isInterfaceBody) =>
        { Procedure.begin header first.line none with module, isInterfaceBody }
      let announced :=
        if (innermost? isHolder state.stack).isNone then
          let heading := Heading.mk (.procedure header.kind) header.name
          { state with
            found := { state.found with topLevel := state.found.topLevel ++ [heading] } }
        else
          state
      pure (some (announced.push
        ⟨.procedure header.kind, header.name.text, first, .procedure node, true, []⟩))

theorem openProcedure?_eq (filled : tokens ≠ []) :
    (State.ofScan state).openProcedure? tokens =
      some ((state.openProcedure? tokens).map .ofScan) := by
  obtain ⟨first, rest, rfl⟩ := List.exists_cons_of_ne_nil filled
  rw [State.openProcedure?, header?_eq, ScanState.openProcedure?]
  cases Statement.header? (first :: rest) with
  | none => rfl
  | some header =>
    obtain ⟨held, alone⟩ := holding_eq header first.line state.frames
    simp only [State.ofScan, List.getElem?_cons_zero, Option.bind_eq_bind, Option.bind_some,
      held, alone]
    cases Frames.holder? state.frames <;> rfl

/-- A block that can take interface blocks. -/
def Block.takingInterfaces (block : Block) : Attempt Block := do
  let _ ← block.node.scope?
  pure block

/-- Open the interface block that a statement starts, if it starts one: the
innermost scope has room for it. -/
def State.openInterface? (state : State) (tokens : List Token) : Attempt (Option State) := do
  match ← interfaceHeading? tokens with
  | none => pure none
  | some block =>
      let room ← state.mapScope Block.takingInterfaces
      pure (some (room.push
        ⟨.interface, block.name.getD "", block.token, .interface block, true, []⟩))

theorem mapScope_id (frames : List Frame) : Frames.mapScope id frames = frames := by
  induction frames with
  | nil => rfl
  | cons frame rest ih =>
    cases frame with
    | scope scope => rfl
    | interface _ _ => exact congrArg (_ :: ·) ih
    | derivedType _ _ => exact congrArg (_ :: ·) ih
    | construct _ _ => exact congrArg (_ :: ·) ih

theorem openInterface?_eq (filled : tokens ≠ []) :
    (State.ofScan state).openInterface? tokens =
      some ((state.openInterface? tokens).map .ofScan) := by
  rw [State.openInterface?, interfaceHeading?_eq filled, ScanState.openInterface?]
  cases Statement.interfaceHeading? tokens with
  | none => rfl
  | some block =>
    have taking (scope : Scope) :
        (Block.ofScope scope).takingInterfaces = some (.ofScope (id scope)) := by
      simp [Block.takingInterfaces, Block.ofScope]
    have room := mapScope_eq state taking
    rw [ScanState.mapFrames, mapScope_id] at room
    simp only [Option.bind_eq_bind, Option.bind_some, room]
    rfl

/-- A program unit with one more derived type. -/
def addType (derivedType : DerivedType) (node : ProgramUnit) : ProgramUnit :=
  { node with derivedTypes := node.derivedTypes ++ [derivedType] }.grant
    derivedType.visibility derivedType.name derivedType.token

/-- Record a derived type in the block of a program unit. -/
def Block.addType (derivedType : DerivedType) (block : Block) : Attempt Block := do
  if isUnit block.kind then
    let node ← block.node.programUnit?
    pure (block.withNode (.programUnit (Position.addType derivedType node)))
  else
    pure block

/-- Open the derived type that a statement starts, if it starts one, and record it
in the innermost scope when that is a program unit. -/
def State.openType? (state : State) (tokens : List Token) : Attempt (Option State) := do
  match ← typeHeading? tokens with
  | none => pure none
  | some derivedType =>
      let first ← tokens[0]?
      let recorded ← state.mapScope (Block.addType derivedType)
      pure (some (recorded.push ⟨.derivedType, derivedType.name, first, .nothing, true, []⟩))

theorem openType?_eq (filled : tokens ≠ []) :
    (State.ofScan state).openType? tokens = some ((state.openType? tokens).map .ofScan) := by
  obtain ⟨first, rest, rfl⟩ := List.exists_cons_of_ne_nil filled
  rw [State.openType?, typeHeading?_eq filled, ScanState.openType?]
  cases Statement.typeHeading? (first :: rest) with
  | none => rfl
  | some derivedType =>
    have keeps : ScopeNode.Keeps (ScopeNode.mapUnit (addType derivedType)) :=
      ScopeNode.keeps_mapUnit fun node => by simp [addType]
    have adding (scope : Scope) : (Block.ofScope scope).addType derivedType =
        some ((Block.ofScope scope).withNode (scope.node.mapUnit (addType derivedType))) := by
      obtain ⟨opener, node, inSpecification, nested⟩ := scope
      cases node <;> rfl
    have recorded := mapNode_eq state keeps adding
    simp only [Option.bind_eq_bind, Option.bind_some, List.getElem?_cons_zero, recorded]
    rfl

/-- Open the block construct that a statement starts, if it starts one. -/
def State.openConstruct? (state : State) (tokens : List Token) : Attempt (Option State) := do
  match ← construct? tokens with
  | none => pure none
  | some kind =>
      let first ← tokens[0]?
      let recorded ← if kind = .enumeration then pure state else state.recordExecutable tokens
      pure (some (recorded.push ⟨.construct kind, kind.word, first, .nothing, true, []⟩))

theorem openConstruct?_eq (filled : tokens ≠ []) :
    (State.ofScan state).openConstruct? tokens =
      some ((state.openConstruct? tokens).map .ofScan) := by
  obtain ⟨first, rest, rfl⟩ := List.exists_cons_of_ne_nil filled
  rw [State.openConstruct?, construct?_eq filled, ScanState.openConstruct?]
  cases Statement.construct? (first :: rest) with
  | none => rfl
  | some kind =>
    by_cases enumeration : kind = .enumeration
    · simp [enumeration]
      rfl
    · simp [enumeration, recordExecutable_eq state filled]
      rfl

/-! ## Taking a block off -/

/-- Add program units that have ended to the scope around them. -/
def State.addUnits (state : State) (units : List ProgramUnit) : Attempt State :=
  if (innermost? BlockKind.isScope state.stack).isSome then
    state.mapScope fun block => pure { block with nested := block.nested ++ units }
  else
    pure { state with found := { state.found with units := state.found.units ++ units } }

theorem addUnits_eq (units : List ProgramUnit) :
    (State.ofScan state).addUnits units = some (.ofScan (state.addUnits units)) := by
  have inScope : (innermost? BlockKind.isScope (State.ofScan state).stack).isSome =
      (Frames.scope? state.frames).isSome := by
    rw [State.ofScan, innermost?_isScope, Option.isSome_map]
  rw [State.addUnits, ScanState.addUnits, inScope]
  split
  · exact mapScope_eq state fun scope => rfl
  · rfl

/-- Put a procedure that has ended into the block that takes it. -/
def State.addProcedure (state : State) (procedure : Procedure) : Attempt State :=
  if (innermost? isHolder state.stack).isSome then do
    let stack ← mapInnermost isHolder (Block.take procedure) state.stack
    pure { state with stack }
  else
    let external := state.found.external ++ [procedure]
    pure { state with found := { state.found with external } }

theorem addProcedure_eq (procedure : Procedure) :
    (State.ofScan state).addProcedure procedure =
      some (.ofScan (state.addProcedure procedure)) := by
  obtain ⟨mapped, held⟩ := mapInnermost_isHolder procedure state.frames
  rw [State.addProcedure, ScanState.addProcedure, State.ofScan, mapped, held]
  cases Frames.attach? procedure state.frames <;> rfl

/-- Add an interface block to the block of a program unit or procedure. -/
def Block.addInterface (interface : Interface) (block : Block) : Attempt Block := do
  let node ← block.node.scope?
  pure (block.withNode (node.addInterface interface))

/-- End a block that has been taken off: by its kind, it goes into the blocks
around it. -/
def State.finish (state : State) (block : Block) (endLine : Nat) : Attempt State := do
  if isProcedure block.kind then
    let node ← block.node.procedure?
    (← state.addProcedure (node.finish endLine)).addUnits block.nested
  else if isUnit block.kind then
    let node ← block.node.programUnit?
    state.addUnits (node.finish endLine :: block.nested)
  else if block.kind == .interface then
    let interface ← block.node.interface?
    state.mapScope (Block.addInterface interface)
  else
    pure state

/-- Take the innermost block off, report it, and end it. -/
def State.dropTop (state : State) (cause : Block → StructuralCause) (endLine : Nat) :
    Attempt State := do
  let (block, stack) ← pop state.stack
  ({ state with stack }.report (cause block) block.opener).finish block endLine

theorem finish_eq (frame : Frame) (rest : List Frame) (frames_eq : state.frames = frame :: rest)
    (endLine : Nat) :
    (State.ofScan { state with frames := rest }).finish (.ofFrame frame) endLine =
      some (.ofScan (state.closeTop endLine)) := by
  obtain ⟨frames, units, external, topLevel, misplacedUses, errors, depths⟩ := state
  subst frames_eq
  cases frame with
  | scope scope =>
    obtain ⟨opener, node, inSpecification, nested⟩ := scope
    cases node with
    | programUnit node => exact addUnits_eq ..
    | procedure node =>
      have added :=
        addProcedure_eq ⟨rest, units, external, topLevel, misplacedUses, errors, depths⟩
        (node.finish endLine)
      exact (congrArg (Option.bind · (State.addUnits · nested)) added).trans (addUnits_eq ..)
  | interface opener interface =>
    have adding (scope : Scope) : (Block.ofScope scope).addInterface interface =
        some ((Block.ofScope scope).withNode (scope.node.addInterface interface)) := by
      simp [Block.addInterface, Block.ofScope]
    exact mapNode_eq _ (ScopeNode.keeps_addInterface interface) adding
  | derivedType opener name => rfl
  | construct opener kind => rfl

/-- What is reported of a frame is reported of its block. -/
theorem dropTop_eq {frame : Frame} {rest : List Frame} (frames_eq : state.frames = frame :: rest)
    (cause : Block → StructuralCause) (endLine : Nat) :
    (State.ofScan state).dropTop cause endLine =
      some (.ofScan ((state.report (cause (.ofFrame frame)) frame.opener).closeTop endLine)) := by
  have finished := finish_eq (state.report (cause (.ofFrame frame)) frame.opener) frame rest
    frames_eq endLine
  rw [State.dropTop, State.ofScan, frames_eq, ← finished, ← Block.opener_ofFrame]
  rfl

/-! ## Closing -/

/-- Whether an END statement of a kind closes a block; a bare END names no
kind. -/
def isEndOf (kind : Option BlockKind) (found : BlockKind) : Bool :=
  match kind with
  | none => found.isScope
  | some kind => found == kind

/-- The position of the block that an END statement closes, counted from the
outermost block, when the search goes on at a number of blocks above it. -/
def findOpen (kind : Option BlockKind) (stack : List Block) (above : Nat) :
    Attempt (Option Nat) :=
  if inside : above < stack.length then do
    let block ← stack[above]?
    if isEndOf kind block.kind then pure (some (stack.length - 1 - above))
    else if block.kind.isScope && kind.any (!·.isScope) then pure none
    else findOpen kind stack (above + 1)
  else
    pure none
termination_by stack.length - above

theorem findOpen_eq (kind : Option BlockKind) (frames : List Frame) (above : Nat) :
    findOpen kind (frames.map .ofFrame) above =
      some ((Frames.reach? kind (frames.drop above)).map fun count =>
        frames.length - 1 - (above + count)) := by
  induction above using forward frames with
  | outside above outside =>
    rw [findOpen, dif_neg (by simpa using outside), drop_eq_nil outside]
    rfl
  | inside above frame inside here cut ih =>
    have same : frame.block.isClosedBy kind = isEndOf kind frame.kind := by
      cases kind <;> rfl
    rw [findOpen, dif_pos (by simpa using inside), cut, Frames.reach?_cons, same, Frame.block_kind]
    simp only [List.getElem?_map, here, Option.map_some, Option.bind_eq_bind, Option.bind_some,
      Block.kind_ofFrame, List.length_map, ih (above + 1) (Nat.lt_succ_self _)]
    cases isEndOf kind frame.kind with
    | true => rfl
    | false =>
      cases frame.kind.isScope && kind.any (!·.isScope) with
      | true => rfl
      | false =>
        cases Frames.reach? kind (frames.drop (above + 1)) with
        | none => rfl
        | some count =>
          have place_eq : above + 1 + count = above + (count + 1) := by omega
          simp [place_eq]

theorem length_stack_ofScan {state : ScanState} {count : Nat}
    (length_eq : state.frames.length = count) : (State.ofScan state).stack.length = count := by
  rw [State.ofScan, List.length_map, length_eq]

/-- Take off, and report, the blocks that stand further inside than a position. -/
def State.closeAbove (state : State) (line index : Nat) : Attempt State :=
  if index < state.stack.length - 1 then do
    let closed ←
      state.dropTop (fun block => .notClosedBefore block.kind block.opener.line line) line
    let ⟨_⟩ ← onward closed.stack.length state.stack.length
    closed.closeAbove line index
  else
    pure state
termination_by state.stack.length

theorem length_closeTop (endLine : Nat) :
    (state.closeTop endLine).frames.length = state.frames.length - 1 := by
  have blocks_eq := congrArg List.length (state.blocks_closeTop endLine)
  simpa [ScanState.blocks] using blocks_eq

theorem closeAbove_eq (line index count : Nat)
    (length_eq : state.frames.length = index + 1 + count) :
    (State.ofScan state).closeAbove line index = some (.ofScan (state.closeAbove line count)) := by
  have stack_length := length_stack_ofScan length_eq
  induction count generalizing state with
  | zero =>
    rw [State.closeAbove, if_neg (by omega)]
    rfl
  | succ count ih =>
    rw [State.closeAbove, if_pos (by omega), ScanState.closeAbove]
    cases frames_eq : state.frames with
    | nil => simp [frames_eq] at length_eq
    | cons frame rest =>
      have dropped := dropTop_eq state frames_eq
        (fun block => .notClosedBefore block.kind block.opener.line line) line
      simp only [Block.kind_ofFrame, Block.opener_ofFrame] at dropped
      simp only [dropped, Option.bind_eq_bind, Option.bind_some]
      have shorter : ((state.report (.notClosedBefore frame.kind frame.opener.line line)
          frame.opener).closeTop line).frames.length = index + 1 + count := by
        rw [length_closeTop]
        exact Nat.sub_eq_of_eq_add length_eq
      have below := length_stack_ofScan shorter
      rw [onward_eq (below.trans_lt ((Nat.lt_succ_self _).trans_eq stack_length.symm))]
      exact ih _ shorter below

theorem length_closeAbove (line count : Nat) :
    (state.closeAbove line count).frames.length = state.frames.length - count := by
  induction count generalizing state with
  | zero => rfl
  | succ count ih =>
    rw [ScanState.closeAbove]
    split
    · rename_i frames_eq
      simp [frames_eq]
    · rw [ih, length_closeTop, Nat.add_comm, Nat.sub_add_eq]
      rfl

theorem reach?_lt_length {kind : Option BlockKind} {frames : List Frame} {count : Nat}
    (found : Frames.reach? kind frames = some count) : count < frames.length := by
  induction frames generalizing count with
  | nil => contradiction
  | cons frame rest ih =>
    rw [Frames.reach?_cons] at found
    rw [List.length_cons]
    split at found
    · cases found
      exact Nat.succ_pos _
    split at found
    · contradiction
    · obtain ⟨inner, reached, rfl⟩ := Option.map_eq_some_iff.mp found
      exact Nat.succ_lt_succ (ih reached)

/-- The name behind END, when it is not the name of the block. -/
def misnamed? (block : Block) (trailing : List Token) : Attempt (Option Token) := do
  let isMisnamed ← guarded (0 < trailing.length) (guarded block.kind.isScope do
    let token ← trailing[0]?
    pure (token.isName && token.lower != Text.lower block.name))
  if isMisnamed then pure (some (← trailing[0]?)) else pure none

theorem misnamed?_eq (frame : Frame) (trailing : List Token) :
    misnamed? (.ofFrame frame) trailing = some (ScanState.endMismatch? frame trailing) := by
  cases trailing with
  | nil => rfl
  | cons token rest =>
    simp [misnamed?, ScanState.endMismatch?, Frame.isScope_eq, and_assoc, apply_ite some]

/-- Carry out a closing statement. -/
def State.close (state : State) (closer : Statement.Closer) (tokens : List Token) :
    Attempt State := do
  let first ← tokens[0]?
  match ← findOpen closer.kind state.stack 0 with
  | none => pure (state.report (.unmatchedEnd closer.kind) first)
  | some index =>
      let closed ← state.closeAbove first.line index
      let (block, stack) ← pop closed.stack
      let reported ← match ← misnamed? block closer.trailing with
        | some token =>
            pure ({ closed with stack }.report
              (.endNameMismatch block.kind token.text block.name) token)
        | none => pure { closed with stack }
      let last ← tokens[tokens.length - 1]?
      reported.finish block last.line

theorem close_eq (closer : Statement.Closer) (first : Token) (rest : List Token) :
    (State.ofScan state).close closer (first :: rest) =
      some (.ofScan (state.close closer first (rest.getLastD first))) := by
  have found := findOpen_eq closer.kind state.frames 0
  have last : (first :: rest)[(first :: rest).length - 1]? = some (rest.getLastD first) := by
    rw [← List.getLast?_eq_getElem?, List.getLast?_cons, List.getLastD_eq_getLast?]
  rw [List.drop_zero] at found
  simp only [State.close, ScanState.close, List.getElem?_cons_zero, Option.bind_eq_bind,
    Option.bind_some, last]
  rw [State.ofScan, found]
  cases reached : Frames.reach? closer.kind state.frames with
  | none => rfl
  | some count =>
    have inside := reach?_lt_length reached
    have closed := closeAbove_eq state first.line (state.frames.length - 1 - (0 + count)) count
      (by omega)
    have length_eq := length_closeAbove state first.line count
    rw [State.ofScan] at closed
    simp only [Option.map_some, Option.bind_some, closed]
    generalize state.closeAbove first.line count = reached at length_eq
    cases frames_eq : reached.frames with
    | nil =>
      rw [frames_eq, List.length_nil] at length_eq
      omega
    | cons frame below =>
      simp only [State.ofScan, frames_eq, List.map_cons, pop, Option.bind_some, misnamed?_eq]
      cases ScanState.endMismatch? frame closer.trailing with
      | none => exact finish_eq reached frame below frames_eq _
      | some token =>
        have finished := finish_eq
          (reached.report (.endNameMismatch frame.kind token.text frame.name) token) frame below
          frames_eq (rest.getLastD first).line
        simp only [Block.kind_ofFrame, Block.name_ofFrame]
        exact finished

/-- Take off, and report, the blocks that the end of the source leaves open. -/
def State.closeAll (state : State) (lastLine : Nat) : Attempt State :=
  if 0 < state.stack.length then do
    let closed ← state.dropTop
      (fun block => .neverClosed block.kind block.name block.opener.line) lastLine
    let ⟨_⟩ ← onward closed.stack.length state.stack.length
    closed.closeAll lastLine
  else
    pure state
termination_by state.stack.length

theorem closeAll_eq (lastLine count : Nat) (length_eq : state.frames.length = count) :
    (State.ofScan state).closeAll lastLine = some (.ofScan (state.closeAll lastLine count)) := by
  have stack_length := length_stack_ofScan length_eq
  induction count generalizing state with
  | zero =>
    rw [State.closeAll, if_neg (by omega)]
    rfl
  | succ count ih =>
    rw [State.closeAll, if_pos (by omega), ScanState.closeAll]
    cases frames_eq : state.frames with
    | nil => simp [frames_eq] at length_eq
    | cons frame rest =>
      have dropped := dropTop_eq state frames_eq
        (fun block => .neverClosed block.kind block.name block.opener.line) lastLine
      simp only [Block.kind_ofFrame, Block.name_ofFrame, Block.opener_ofFrame] at dropped
      simp only [dropped, Option.bind_eq_bind, Option.bind_some]
      have shorter : ((state.report (.neverClosed frame.kind frame.name frame.opener.line)
          frame.opener).closeTop lastLine).frames.length = count := by
        rw [length_closeTop]
        exact Nat.sub_eq_of_eq_add length_eq
      have below := length_stack_ofScan shorter
      rw [onward_eq (below.trans_lt ((Nat.lt_succ_self _).trans_eq stack_length.symm))]
      exact ih _ shorter below

end FortranStyle.Position
