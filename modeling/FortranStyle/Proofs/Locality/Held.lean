import FortranStyle.Program.Scan

/-!
# What program units hold

A program unit is put together while it is open: its interface blocks take their
places when they close, and the unit itself takes its place when it ends.  Seen
from outside none of this matters.  At any time there is a list of the program
units that have started, in order, each with all that it holds so far but its
procedures, whose insides are their own.  Closing a block changes nothing in it.
-/

namespace FortranStyle

/-! ## Faces -/

/-- A procedure as its header tells. -/
def Procedure.husk (procedure : Procedure) : Procedure :=
  { procedure with
    endLine := 0, arguments := [], visibility := .isPublic, specification := .empty, actions := [],
    children := [], interfaces := [] }

/-- An interface block with the headers of its bodies, those that have ended and
those that are open. -/
def InterfaceBlock.face (block : InterfaceBlock Procedure) (bodies : List Procedure) :
    InterfaceBlock Procedure :=
  { block with bodies := block.bodies.map Procedure.husk ++ bodies }

/-- A program unit without its procedures and its end, with the interface blocks
that have ended and those that are open. -/
def ProgramUnit.face (programUnit : ProgramUnit) (blocks : List Interface) : ProgramUnit :=
  { programUnit with
    endLine := 0, procedures := [],
    interfaces := programUnit.interfaces.map (·.face []) ++ blocks }

theorem Procedure.husk_finish (procedure : Procedure) (endLine : Nat) :
    (procedure.finish endLine).husk = procedure.husk :=
  rfl

theorem ProgramUnit.face_finish (programUnit : ProgramUnit) (endLine : Nat) :
    (programUnit.finish endLine).face [] = programUnit.face [] :=
  rfl

namespace Frames

/-- The program units that have started in some frames.  The headers of bodies and
the interface blocks are those open above the frames. -/
def held : List Frame → List Procedure → List Interface → List ProgramUnit
  | [], _, _ => []
  | .scope ⟨_, .programUnit node, _, nested⟩ :: rest, _, blocks =>
      held rest [] [] ++ node.face blocks :: nested.map (·.face [])
  | .scope ⟨_, .procedure node, _, nested⟩ :: rest, _, _ =>
      held rest [node.husk] [] ++ nested.map (·.face [])
  | .interface _ block :: rest, bodies, blocks => held rest [] (blocks ++ [block.face bodies])
  | .derivedType .. :: rest, bodies, blocks => held rest bodies blocks
  | .construct .. :: rest, bodies, blocks => held rest bodies blocks

end Frames

namespace ScanState

/-- The program units that have started, in order, without their procedures. -/
def held (state : ScanState) : List ProgramUnit :=
  state.units.map (·.face []) ++ Frames.held state.frames [] []

end ScanState

/-! ## Changes of the innermost scope -/

namespace ScopeNode

/-- A node that differs from another at most in what does not show. -/
inductive SameFace : ScopeNode → ScopeNode → Prop
  | programUnit {node node' : ProgramUnit}
      (same : ∀ blocks, node'.face blocks = node.face blocks) :
      SameFace (.programUnit node) (.programUnit node')
  | procedure {node node' : Procedure} (same : node'.husk = node.husk) :
      SameFace (.procedure node) (.procedure node')

theorem SameFace.refl (node : ScopeNode) : SameFace node node := by
  cases node with
  | programUnit node => exact .programUnit fun _ => rfl
  | procedure node => exact .procedure rfl

theorem sameFace_mapProcedure {f : Procedure → Procedure}
    (same : ∀ node, (f node).husk = node.husk) (node : ScopeNode) :
    SameFace node (node.mapProcedure f) := by
  cases node with
  | programUnit node => exact .refl _
  | procedure node => exact .procedure (same node)

end ScopeNode

namespace Frames

variable (frames : List Frame) (bodies : List Procedure) (blocks : List Interface)

theorem held_mapScope {f : Scope → Scope}
    (same : ∀ scope ∈ scope? frames,
      ScopeNode.SameFace scope.node (f scope).node ∧ (f scope).nested = scope.nested) :
    held (mapScope f frames) bodies blocks = held frames bodies blocks := by
  induction frames generalizing bodies blocks with
  | nil => rfl
  | cons frame rest ih =>
    cases frame with
    | scope scope =>
      obtain ⟨sameNode, nested_eq⟩ := same scope rfl
      obtain ⟨opener, node, inSpecification, nested⟩ := scope
      rw [mapScope]
      generalize f ⟨opener, node, inSpecification, nested⟩ = changed at sameNode nested_eq
      obtain ⟨opener', node', inSpecification', nested'⟩ := changed
      dsimp only at sameNode nested_eq
      subst nested_eq
      cases sameNode with
      | programUnit face_eq => rw [held, held, face_eq]
      | procedure husk_eq => rw [held, held, husk_eq]
    | interface _ _ => exact ih _ _ same
    | derivedType _ _ => exact ih _ _ same
    | construct _ _ => exact ih _ _ same

theorem held_mapNode {f : ScopeNode → ScopeNode}
    (same : ∀ scope ∈ scope? frames, ScopeNode.SameFace scope.node (f scope.node)) :
    held (mapNode f frames) bodies blocks = held frames bodies blocks :=
  held_mapScope frames bodies blocks fun scope member => ⟨same scope member, rfl⟩

theorem held_of_scope?_none (outside : scope? frames = none) :
    held frames bodies blocks = [] := by
  induction frames generalizing bodies blocks with
  | nil => rfl
  | cons frame rest ih =>
    cases frame with
    | scope scope => contradiction
    | interface _ _ => exact ih _ _ outside
    | derivedType _ _ => exact ih _ _ outside
    | construct _ _ => exact ih _ _ outside

/-! ## Closing blocks -/

/-- An interface block that closes takes its place in the innermost scope. -/
theorem held_addInterface (block : Interface) :
    held (mapNode (·.addInterface block) frames) bodies blocks =
      held frames bodies (block.face [] :: blocks) := by
  induction frames generalizing bodies blocks with
  | nil => rfl
  | cons frame rest ih =>
    cases frame with
    | scope scope =>
      obtain ⟨opener, node, inSpecification, nested⟩ := scope
      cases node with
      | programUnit node =>
        have face_eq :
            ProgramUnit.face { node with interfaces := node.interfaces ++ [block] } blocks =
            node.face (block.face [] :: blocks) := by
          simp [ProgramUnit.face]
        exact congrArg (held rest [] [] ++ · :: nested.map (·.face [])) face_eq
      | procedure node => rfl
    | interface _ _ => exact ih _ _
    | derivedType _ _ => exact ih _ _
    | construct _ _ => exact ih _ _

/-- A procedure that ends takes its place in the innermost interface block or
scope. -/
theorem held_attach? {procedure : Procedure} {frames frames' : List Frame}
    (attached : attach? procedure frames = some frames') (blocks : List Interface) :
    held frames' [] blocks = held frames [procedure.husk] blocks := by
  induction frames generalizing frames' blocks with
  | nil => contradiction
  | cons frame rest ih =>
    cases frame with
    | scope scope =>
      cases attached
      obtain ⟨opener, node, inSpecification, nested⟩ := scope
      cases node with
      | programUnit node => rfl
      | procedure node => rfl
    | interface opener block =>
      cases attached
      simp [held, InterfaceBlock.face]
    | derivedType _ _ =>
      obtain ⟨rest', attached', rfl⟩ := Option.map_eq_some_iff.mp attached
      exact ih attached' blocks
    | construct _ _ =>
      obtain ⟨rest', attached', rfl⟩ := Option.map_eq_some_iff.mp attached
      exact ih attached' blocks

theorem held_of_attach?_none {procedure : Procedure} {frames : List Frame}
    (loose : attach? procedure frames = none) (bodies : List Procedure) (blocks : List Interface) :
    held frames bodies blocks = [] := by
  induction frames generalizing bodies blocks with
  | nil => rfl
  | cons frame rest ih =>
    cases frame with
    | scope scope => contradiction
    | interface _ _ => contradiction
    | derivedType _ _ => exact ih (Option.map_eq_none_iff.mp loose) _ _
    | construct _ _ => exact ih (Option.map_eq_none_iff.mp loose) _ _

/-- Program units that end inside a scope come last of those that started in it. -/
theorem held_addNested (units : List ProgramUnit) (inside : (scope? frames).isSome = true) :
    held (mapScope (fun scope => { scope with nested := scope.nested ++ units }) frames)
        bodies blocks =
      held frames bodies blocks ++ units.map (·.face []) := by
  induction frames generalizing bodies blocks with
  | nil => contradiction
  | cons frame rest ih =>
    cases frame with
    | scope scope =>
      obtain ⟨opener, node, inSpecification, nested⟩ := scope
      cases node with
      | programUnit node => simp [mapScope, held]
      | procedure node => simp [mapScope, held]
    | interface _ _ => exact ih _ _ inside
    | derivedType _ _ => exact ih _ _ inside
    | construct _ _ => exact ih _ _ inside

end Frames

namespace ScanState

variable (state : ScanState)

theorem held_addUnits (units : List ProgramUnit) :
    (state.addUnits units).held = state.held ++ units.map (·.face []) := by
  unfold addUnits
  split
  · rename_i inside
    rw [held, held, List.append_assoc, mapFrames, Frames.held_addNested _ _ _ _ inside]
  · rename_i outside
    have nothing := Frames.held_of_scope?_none state.frames [] []
      (Option.not_isSome_iff_eq_none.mp outside)
    simp [held, nothing]

theorem held_addProcedure (procedure : Procedure) :
    (state.addProcedure procedure).held =
      state.units.map (·.face []) ++ Frames.held state.frames [procedure.husk] [] := by
  unfold addProcedure
  split
  · rename_i attached
    rw [held, Frames.held_attach? attached]
  · rename_i loose
    rw [held, Frames.held_of_attach?_none loose, Frames.held_of_attach?_none loose]

/-- Closing a block changes nothing in what program units hold. -/
@[simp]
theorem held_closeTop (endLine : Nat) : (state.closeTop endLine).held = state.held := by
  obtain ⟨frames, units, external, topLevel, misplacedUses, errors, depths⟩ := state
  rcases frames with _ | ⟨frame, rest⟩
  · rfl
  cases frame with
  | scope scope =>
    obtain ⟨opener, node, inSpecification, nested⟩ := scope
    cases node with
    | programUnit node =>
      rw [closeTop, held_addUnits, held, held, List.map_cons, ProgramUnit.face_finish,
        List.append_assoc]
      rfl
    | procedure node =>
      rw [closeTop, held_addUnits, held_addProcedure, held, Procedure.husk_finish,
        List.append_assoc]
      rfl
  | interface opener block =>
    exact congrArg (units.map (·.face []) ++ ·) (Frames.held_addInterface rest [] [] block)
  | derivedType _ _ => rfl
  | construct _ _ => rfl

@[simp]
theorem held_report (cause : StructuralCause) (token : Token) :
    (state.report cause token).held = state.held :=
  rfl

@[simp]
theorem held_recordDepth (token : Token) (depth : Nat) :
    (state.recordDepth token depth).held = state.held :=
  rfl

theorem held_closeAbove (line count : Nat) : (state.closeAbove line count).held = state.held := by
  induction count generalizing state with
  | zero => rfl
  | succ count ih =>
    unfold closeAbove
    split
    · rfl
    · rw [ih, held_closeTop, held_report]

theorem held_closeAll (lastLine count : Nat) :
    (state.closeAll lastLine count).held = state.held := by
  induction count generalizing state with
  | zero => rfl
  | succ count ih =>
    unfold closeAll
    split
    · rfl
    · rw [ih, held_closeTop, held_report]

theorem held_close (closer : Statement.Closer) (first last : Token) :
    (state.close closer first last).held = state.held := by
  unfold close
  split
  · rfl
  · rename_i count _
    have above := state.held_closeAbove first.line count
    dsimp only
    generalize state.closeAbove first.line count = closing at above ⊢
    rw [held_closeTop, ← above]
    split
    · rfl
    · split
      · rfl
      · rfl

end ScanState

end FortranStyle
