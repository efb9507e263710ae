import FortranStyle.Program.Scan
import Mathlib.Tactic.SplitIfs

/-!
# Open blocks without their contents

How blocks pair up depends on a frame only through its opening token, its kind
and its name.  Recording a statement leaves these, and the errors found so far,
as they are; closing the innermost block takes it away and adds no error.
-/

namespace FortranStyle

/-- What pairing up needs to know of an open block. -/
structure OpenBlock where
  /-- The first token of the opening statement. -/
  opener : Token
  kind : BlockKind
  /-- The name of the block, which is its word for a construct. -/
  name : String
deriving DecidableEq, Repr

/-- A frame without what is recorded in it. -/
def Frame.block (frame : Frame) : OpenBlock :=
  ⟨frame.opener, frame.kind, frame.name⟩

/-- The open blocks, the innermost one first. -/
def ScanState.blocks (state : ScanState) : List OpenBlock :=
  state.frames.map Frame.block

namespace Frame

@[simp]
theorem block_opener (frame : Frame) : frame.block.opener = frame.opener :=
  rfl

@[simp]
theorem block_kind (frame : Frame) : frame.block.kind = frame.kind :=
  rfl

@[simp]
theorem block_name (frame : Frame) : frame.block.name = frame.name :=
  rfl

theorem isScope_eq (frame : Frame) : frame.isScope = frame.kind.isScope := by
  rcases frame with scope | _ | _ | _
  · rcases scope with ⟨_, node, _, _⟩
    cases node <;> rfl
  · rfl
  · rfl
  · rfl

end Frame

/-! ## Nodes -/

namespace ScopeNode

/-- A change of a node that leaves its kind and its name as they are. -/
def Keeps (f : ScopeNode → ScopeNode) : Prop :=
  ∀ node, (f node).kind = node.kind ∧ (f node).name = node.name

theorem keeps_mapSpecification (f : Specification → Specification) :
    Keeps (mapSpecification f) := by
  intro node
  cases node <;> exact ⟨rfl, rfl⟩

theorem keeps_mapProcedure {f : Procedure → Procedure}
    (same : ∀ node, (f node).kind = node.kind ∧ (f node).token = node.token) :
    Keeps (mapProcedure f) := by
  intro node
  cases node with
  | programUnit node => exact ⟨rfl, rfl⟩
  | procedure node =>
    obtain ⟨kind_eq, token_eq⟩ := same node
    exact ⟨congrArg BlockKind.procedure kind_eq, congrArg Token.text token_eq⟩

theorem keeps_mapUnit {f : ProgramUnit → ProgramUnit}
    (same : ∀ node, (f node).kind = node.kind ∧ (f node).token = node.token) :
    Keeps (mapUnit f) := by
  intro node
  cases node with
  | programUnit node =>
    obtain ⟨kind_eq, token_eq⟩ := same node
    exact ⟨congrArg BlockKind.unit kind_eq, congrArg Token.text token_eq⟩
  | procedure node => exact ⟨rfl, rfl⟩

theorem keeps_addInterface (block : Interface) : Keeps (addInterface block) := by
  intro node
  cases node <;> exact ⟨rfl, rfl⟩

theorem keeps_addProcedure (child : Procedure) : Keeps (addProcedure child) := by
  intro node
  cases node <;> exact ⟨rfl, rfl⟩

end ScopeNode

namespace ProgramUnit

@[simp]
theorem grant_kind (node : ProgramUnit) (visibility : Option Visibility) (name : String)
    (token : Token) : (node.grant visibility name token).kind = node.kind := by
  rcases visibility with _ | _ | _
  · rfl
  all_goals
    simp only [grant]
    split <;> rfl

@[simp]
theorem grant_token (node : ProgramUnit) (visibility : Option Visibility) (name : String)
    (token : Token) : (node.grant visibility name token).token = node.token := by
  rcases visibility with _ | _ | _
  · rfl
  all_goals
    simp only [grant]
    split <;> rfl

theorem declare_same (node : ProgramUnit) (declaration : Declaration) :
    (node.declare declaration).kind = node.kind ∧
      (node.declare declaration).token = node.token := by
  unfold declare
  cases node.isModule <;> simp

theorem recordAccess_same (node : ProgramUnit) (visibility : Visibility) (word : Token)
    (rest : List Token) :
    (node.recordAccess visibility word rest).kind = node.kind ∧
      (node.recordAccess visibility word rest).token = node.token := by
  unfold recordAccess
  split
  · exact ⟨rfl, rfl⟩
  · induction Bracket.items rest generalizing node with
    | nil => exact ⟨rfl, rfl⟩
    | cons item items ih =>
      cases item with
      | nil => exact ih node
      | cons token more =>
        obtain ⟨kind_eq, token_eq⟩ :=
          ih (node.grant (some visibility) (Statement.localName (token :: more)) token)
        exact ⟨kind_eq.trans (grant_kind ..), token_eq.trans (grant_token ..)⟩

end ProgramUnit

namespace ScopeNode

theorem declare_same (constants : List String) (node : ScopeNode) (declaration : Declaration) :
    (node.declare constants declaration).kind = node.kind ∧
      (node.declare constants declaration).name = node.name := by
  cases node with
  | programUnit node =>
    obtain ⟨kind_eq, token_eq⟩ := node.declare_same declaration
    exact ⟨congrArg BlockKind.unit kind_eq, congrArg Token.text token_eq⟩
  | procedure node => exact ⟨rfl, rfl⟩

theorem keeps_declare (constants : List String) (declarations : List Declaration) :
    Keeps fun node => declarations.foldl (ScopeNode.declare constants) node := by
  induction declarations with
  | nil => exact fun _ => ⟨rfl, rfl⟩
  | cons declaration rest ih =>
    intro node
    obtain ⟨kind_eq, name_eq⟩ := node.declare_same constants declaration
    obtain ⟨foldKind_eq, foldName_eq⟩ := ih (node.declare constants declaration)
    exact ⟨foldKind_eq.trans kind_eq, foldName_eq.trans name_eq⟩

end ScopeNode

/-! ## Frames -/

namespace Frames

/-- What is not seen of a scope may change in the innermost one. -/
theorem map_mapScope {α : Type} {see : Frame → α} {f : Scope → Scope}
    (same : ∀ scope, see (.scope (f scope)) = see (.scope scope)) (frames : List Frame) :
    (mapScope f frames).map see = frames.map see := by
  induction frames with
  | nil => rfl
  | cons frame rest ih =>
    cases frame with
    | scope scope => simp [mapScope, same]
    | interface _ _ => simp [mapScope, ih]
    | derivedType _ _ => simp [mapScope, ih]
    | construct _ _ => simp [mapScope, ih]

theorem map_block_mapNode {f : ScopeNode → ScopeNode} (keeps : ScopeNode.Keeps f)
    (frames : List Frame) : (mapNode f frames).map Frame.block = frames.map Frame.block := by
  apply map_mapScope
  intro scope
  obtain ⟨kind_eq, name_eq⟩ := keeps scope.node
  simp [Frame.block, Frame.opener, Frame.kind, Frame.name, kind_eq, name_eq]

theorem map_block_mapProgramUnit {f : ProgramUnit → ProgramUnit}
    (same : ∀ node, (f node).kind = node.kind ∧ (f node).token = node.token)
    (frames : List Frame) :
    (mapProgramUnit f frames).map Frame.block = frames.map Frame.block := by
  induction frames with
  | nil => rfl
  | cons frame rest ih =>
    cases frame with
    | scope scope =>
      rcases scope with ⟨opener, node, inSpecification, nested⟩
      cases node with
      | programUnit node =>
        obtain ⟨kind_eq, token_eq⟩ := same node
        simp [mapProgramUnit, Frame.block, Frame.opener, Frame.kind, Frame.name, ScopeNode.kind,
          ScopeNode.name, ProgramUnit.name, kind_eq, token_eq]
      | procedure node => simp [mapProgramUnit, ih]
    | interface _ _ => simp [mapProgramUnit, ih]
    | derivedType _ _ => simp [mapProgramUnit, ih]
    | construct _ _ => simp [mapProgramUnit, ih]

theorem map_block_attach? {procedure : Procedure} {frames after : List Frame}
    (attached : attach? procedure frames = some after) :
    after.map Frame.block = frames.map Frame.block := by
  induction frames generalizing after with
  | nil => contradiction
  | cons frame rest ih =>
    cases frame with
    | scope scope =>
      cases attached
      obtain ⟨kind_eq, name_eq⟩ := ScopeNode.keeps_addProcedure procedure scope.node
      simp [Frame.block, Frame.opener, Frame.kind, Frame.name, kind_eq, name_eq]
    | interface opener block =>
      cases attached
      rfl
    | derivedType _ _ =>
      obtain ⟨between, found, rfl⟩ := Option.map_eq_some_iff.mp attached
      simp [ih found]
    | construct _ _ =>
      obtain ⟨between, found, rfl⟩ := Option.map_eq_some_iff.mp attached
      simp [ih found]

end Frames

/-! ## States -/

namespace ScanState

/-- The open blocks and the errors are the same. -/
structure Keeps (before after : ScanState) : Prop where
  blocks : after.blocks = before.blocks
  errors : after.errors = before.errors

namespace Keeps

variable {first second third : ScanState}

theorem refl (state : ScanState) : Keeps state state :=
  ⟨rfl, rfl⟩

theorem trans (left : Keeps first second) (right : Keeps second third) : Keeps first third :=
  ⟨right.blocks.trans left.blocks, right.errors.trans left.errors⟩

end Keeps

section Recording

variable (state : ScanState) (tokens : List Token)

theorem keeps_recordDepth (token : Token) (depth : Nat) :
    Keeps state (state.recordDepth token depth) :=
  ⟨rfl, rfl⟩

variable {state} in
theorem keeps_mapFrames {f : List Frame → List Frame}
    (same : (f state.frames).map Frame.block = state.frames.map Frame.block) :
    Keeps state (state.mapFrames f) :=
  ⟨same, rfl⟩

theorem keeps_mapNode {f : ScopeNode → ScopeNode} (keeps : ScopeNode.Keeps f) :
    Keeps state (state.mapNode f) :=
  keeps_mapFrames (Frames.map_block_mapNode keeps _)

theorem keeps_mapProcedure {f : Procedure → Procedure}
    (same : ∀ node, (f node).kind = node.kind ∧ (f node).token = node.token) :
    Keeps state (state.mapProcedure f) :=
  keeps_mapNode state (ScopeNode.keeps_mapProcedure same)

theorem keeps_recordExecutable : Keeps state (state.recordExecutable tokens) := by
  have ended : Keeps state (state.mapFrames (Frames.mapScope fun scope =>
      { scope with inSpecification := false })) := by
    apply keeps_mapFrames
    apply Frames.map_mapScope
    exact fun _ => rfl
  unfold recordExecutable
  cases Statement.action? tokens with
  | none => exact ended
  | some action =>
    apply ended.trans
    apply keeps_mapProcedure
    exact fun _ => ⟨rfl, rfl⟩

theorem keeps_recordUse : Keeps state (state.recordUse tokens) := by
  unfold recordUse
  split
  · exact .refl state
  · split
    · exact keeps_mapNode state (ScopeNode.keeps_mapSpecification _)
    · exact ⟨rfl, rfl⟩

theorem keeps_recordImplicit : Keeps state (state.recordImplicit tokens) := by
  unfold recordImplicit
  split
  · exact keeps_mapNode state (ScopeNode.keeps_mapSpecification _)
  · exact .refl state

theorem keeps_recordDeclaration : Keeps state (state.recordDeclaration tokens) :=
  keeps_mapNode state (ScopeNode.keeps_declare _ _)

theorem keeps_recordAccess (visibility : Visibility) (word : Token) (rest : List Token) :
    Keeps state (state.recordAccess visibility word rest) := by
  apply keeps_mapNode
  apply ScopeNode.keeps_mapUnit
  intro node
  split
  · exact node.recordAccess_same ..
  · exact ⟨rfl, rfl⟩

theorem keeps_recordIntent : Keeps state (state.recordIntent tokens) := by
  simp only [recordIntent]
  split
  · exact keeps_mapProcedure state fun _ => ⟨rfl, rfl⟩
  · exact .refl state

theorem keeps_recordContains (token : Token) : Keeps state (state.recordContains token) := by
  unfold recordContains
  split
  · rename_i scope rest frames_eq
    obtain ⟨kind_eq, name_eq⟩ := ScopeNode.keeps_mapUnit
      (f := fun node => { node with containsLine := some token.line })
      (fun _ => ⟨rfl, rfl⟩) scope.node
    constructor
    · simp [blocks, frames_eq, Frame.block, Frame.opener, Frame.kind, Frame.name, kind_eq,
        name_eq]
    · rfl
  · exact .refl state

variable {state tokens} in
/-- Only an interface block takes the names of PROCEDURE statements. -/
theorem recordMember_eq_self
    (other : ∀ opener block rest, state.frames ≠ .interface opener block :: rest) :
    state.recordMember tokens = state := by
  simp only [recordMember]
  split
  · rename_i frames_eq
    exact absurd frames_eq (other _ _ _)
  · rfl

theorem keeps_recordMember : Keeps state (state.recordMember tokens) := by
  simp only [recordMember]
  split
  · rename_i frames_eq
    split
    · exact ⟨by simp [blocks, frames_eq, Frame.block, Frame.opener, Frame.kind, Frame.name], rfl⟩
    · exact .refl state
  · exact .refl state

theorem keeps_recordEnumerators : Keeps state (state.recordEnumerators tokens) := by
  unfold recordEnumerators
  split
  · apply keeps_mapFrames
    apply Frames.map_block_mapProgramUnit
    exact fun _ => ⟨rfl, rfl⟩
  · exact .refl state

theorem keeps_recordPlain : Keeps state (state.recordPlain tokens) := by
  cases tokens with
  | nil => exact .refl state
  | cons first rest =>
    simp only [recordPlain]
    split_ifs
    · exact keeps_recordUse state _
    · exact keeps_recordImplicit state _
    · exact keeps_recordDeclaration state _
    · exact keeps_recordAccess state ..
    · exact keeps_recordAccess state ..
    · exact keeps_recordIntent state _
    · exact keeps_mapNode state (ScopeNode.keeps_mapSpecification _)
    · exact keeps_mapProcedure state fun _ => ⟨rfl, rfl⟩
    · exact .refl state
    · exact keeps_recordExecutable state _

end Recording

/-! ## Closing the innermost block -/

theorem keeps_addUnits (state : ScanState) (units : List ProgramUnit) :
    Keeps state (state.addUnits units) := by
  unfold addUnits
  split
  · apply keeps_mapFrames
    apply Frames.map_mapScope
    exact fun _ => rfl
  · exact ⟨rfl, rfl⟩

theorem keeps_addProcedure (state : ScanState) (procedure : Procedure) :
    Keeps state (state.addProcedure procedure) := by
  unfold addProcedure
  split
  · exact ⟨Frames.map_block_attach? ‹_›, rfl⟩
  · exact ⟨rfl, rfl⟩

/-- Closing the innermost block takes it from the open blocks. -/
theorem keeps_closeTop (state : ScanState) (endLine : Nat) :
    Keeps { state with frames := state.frames.tail } (state.closeTop endLine) := by
  rcases state with ⟨frames, units, external, topLevel, misplacedUses, errors, depths⟩
  rcases frames with _ | ⟨frame, rest⟩
  · exact .refl _
  cases frame with
  | scope scope =>
    rcases scope with ⟨opener, node, inSpecification, nested⟩
    cases node with
    | programUnit node => exact keeps_addUnits _ _
    | procedure node => exact (keeps_addProcedure _ _).trans (keeps_addUnits _ _)
  | interface opener block =>
    exact ⟨Frames.map_block_mapNode (ScopeNode.keeps_addInterface block) rest, rfl⟩
  | derivedType _ _ => exact .refl _
  | construct _ _ => exact .refl _

@[simp]
theorem blocks_closeTop (state : ScanState) (endLine : Nat) :
    (state.closeTop endLine).blocks = state.blocks.tail := by
  rw [(keeps_closeTop state endLine).blocks]
  exact List.map_tail

@[simp]
theorem errors_closeTop (state : ScanState) (endLine : Nat) :
    (state.closeTop endLine).errors = state.errors :=
  (keeps_closeTop state endLine).errors

@[simp]
theorem blocks_report (state : ScanState) (cause : StructuralCause) (token : Token) :
    (state.report cause token).blocks = state.blocks :=
  rfl

@[simp]
theorem errors_report (state : ScanState) (cause : StructuralCause) (token : Token) :
    (state.report cause token).errors = state.errors ++ [⟨cause, token.line, token.column⟩] :=
  rfl

end ScanState

end FortranStyle
