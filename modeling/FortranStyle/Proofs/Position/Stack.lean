import FortranStyle.Proofs.Nesting.OpenBlock
import FortranStyle.Proofs.Position.Bracket

/-!
# The stack by position

Here the types do not tell what an open block records in.  A block has a kind and a
node, and whoever has looked at the kind asks the node for a part of it: a node that
does not have the part refuses.  A frame is such a block whose kind and node agree,
so that on a stack of frames nobody is refused.
-/

namespace FortranStyle.Position

/-! ## Nodes -/

/-- What a block records in.  Derived types and constructs record nothing. -/
inductive Node
  | programUnit (node : ProgramUnit)
  | procedure (node : Procedure)
  | interface (block : Interface)
  | nothing

namespace Node

/-- Ask for what only program units have: lists of names, access, the line of
CONTAINS. -/
def programUnit? : Node → Attempt ProgramUnit
  | programUnit node => some node
  | _ => none

/-- Ask for what only procedures have: arguments, actions, procedures inside. -/
def procedure? : Node → Attempt Procedure
  | procedure node => some node
  | _ => none

/-- Ask for what only interface blocks have: the names of module procedures. -/
def interface? : Node → Attempt Interface
  | interface block => some block
  | _ => none

/-- Ask for what program units and procedures have: what the specification part
says, and interface blocks. -/
def scope? : Node → Attempt ScopeNode
  | programUnit node => some (.programUnit node)
  | procedure node => some (.procedure node)
  | _ => none

/-- The node of a program unit or procedure. -/
def ofScope : ScopeNode → Node
  | .programUnit node => programUnit node
  | .procedure node => procedure node

@[simp]
theorem scope?_ofScope (node : ScopeNode) : (ofScope node).scope? = some node := by
  cases node <;> rfl

end Node

/-! ## Blocks -/

/-- A program unit. -/
def isUnit : BlockKind → Bool
  | .unit _ => true
  | _ => false

/-- A module or submodule. -/
def isModule (kind : BlockKind) : Bool :=
  isUnit kind && kind != .unit .program

/-- A procedure. -/
def isProcedure : BlockKind → Bool
  | .procedure _ => true
  | _ => false

/-- A block that takes procedures. -/
def isHolder (kind : BlockKind) : Bool :=
  kind.isScope || kind == .interface

/-- An open block. -/
structure Block where
  kind : BlockKind
  name : String
  opener : Token
  node : Node
  /-- No executable statement and no CONTAINS has been met. -/
  inSpecification : Bool
  /-- The program units that started inside and have ended. -/
  nested : List ProgramUnit

namespace Block

/-- The block of a program unit or procedure. -/
def ofScope (scope : Scope) : Block :=
  ⟨scope.node.kind, scope.node.name, scope.opener, .ofScope scope.node, scope.inSpecification,
    scope.nested⟩

/-- The block of a frame. -/
def ofFrame : Frame → Block
  | .scope scope => ofScope scope
  | .interface opener block =>
      ⟨.interface, block.name.getD "", opener, .interface block, true, []⟩
  | .derivedType opener name => ⟨.derivedType, name, opener, .nothing, true, []⟩
  | .construct opener kind => ⟨.construct kind, kind.word, opener, .nothing, true, []⟩

@[simp]
theorem ofFrame_scope (scope : Scope) : ofFrame (.scope scope) = ofScope scope :=
  rfl

@[simp]
theorem kind_ofFrame (frame : Frame) : (ofFrame frame).kind = frame.kind := by
  cases frame <;> rfl

@[simp]
theorem name_ofFrame (frame : Frame) : (ofFrame frame).name = frame.name := by
  cases frame <;> rfl

@[simp]
theorem opener_ofFrame (frame : Frame) : (ofFrame frame).opener = frame.opener := by
  cases frame <;> rfl

theorem isScope_ofScope (scope : Scope) : (ofScope scope).kind.isScope = true :=
  (Frame.scope scope).isScope_eq.symm

end Block

/-! ## Searching the stack -/

/-- The innermost block of a kind. -/
def innermost? (seeks : BlockKind → Bool) (stack : List Block) : Option Block :=
  stack.find? (seeks ·.kind)

/-- Change the innermost block of a kind, if there is one. -/
def mapInnermost (seeks : BlockKind → Bool) (change : Block → Attempt Block) :
    List Block → Attempt (List Block)
  | [] => pure []
  | block :: rest =>
      if seeks block.kind then (change block).map (· :: rest)
      else (mapInnermost seeks change rest).map (block :: ·)

/-- Take the innermost block off. -/
def pop : List Block → Attempt (Block × List Block)
  | [] => none
  | block :: rest => some (block, rest)

theorem innermost?_isScope (frames : List Frame) :
    innermost? BlockKind.isScope (frames.map .ofFrame) =
      (Frames.scope? frames).map .ofScope := by
  induction frames with
  | nil => rfl
  | cons frame rest ih =>
    cases frame with
    | scope scope =>
      rw [innermost?, List.map_cons, List.find?_cons, Block.ofFrame_scope,
        Block.isScope_ofScope scope]
      rfl
    | interface _ _ => exact ih
    | derivedType _ _ => exact ih
    | construct _ _ => exact ih

/-- What is done to the innermost scope block is done to the innermost scope. -/
theorem mapInnermost_isScope {change : Block → Attempt Block} {f : Scope → Scope}
    (changes : ∀ scope, change (.ofScope scope) = some (.ofScope (f scope)))
    (frames : List Frame) :
    mapInnermost BlockKind.isScope change (frames.map .ofFrame) =
      some ((Frames.mapScope f frames).map .ofFrame) := by
  induction frames with
  | nil => rfl
  | cons frame rest ih =>
    cases frame with
    | scope scope =>
      rw [List.map_cons, mapInnermost, Block.ofFrame_scope, if_pos (Block.isScope_ofScope scope),
        changes]
      rfl
    | interface _ _ => exact congrArg (Option.map _) ih
    | derivedType _ _ => exact congrArg (Option.map _) ih
    | construct _ _ => exact congrArg (Option.map _) ih

/-- What is done to the innermost unit block is done to the innermost program
unit. -/
theorem mapInnermost_isUnit {change : Block → Attempt Block} {f : ProgramUnit → ProgramUnit}
    (changes : ∀ opener node inSpecification nested,
      change (.ofScope ⟨opener, .programUnit node, inSpecification, nested⟩) =
        some (.ofScope ⟨opener, .programUnit (f node), inSpecification, nested⟩))
    (frames : List Frame) :
    mapInnermost isUnit change (frames.map .ofFrame) =
      some ((Frames.mapProgramUnit f frames).map .ofFrame) := by
  induction frames with
  | nil => rfl
  | cons frame rest ih =>
    cases frame with
    | scope scope =>
      obtain ⟨opener, node, inSpecification, nested⟩ := scope
      cases node with
      | programUnit node => exact congrArg (Option.map _) (changes ..)
      | procedure node => exact congrArg (Option.map _) ih
    | interface _ _ => exact congrArg (Option.map _) ih
    | derivedType _ _ => exact congrArg (Option.map _) ih
    | construct _ _ => exact congrArg (Option.map _) ih

/-- The named constants of the innermost program unit. -/
def unitConstants (stack : List Block) : Attempt (List String) :=
  match innermost? isUnit stack with
  | some block => do pure (← block.node.programUnit?).specification.parameters
  | none => pure []

theorem unitConstants_eq (frames : List Frame) :
    unitConstants (frames.map .ofFrame) =
      some (match Frames.programUnit? frames with
        | some programUnit => programUnit.specification.parameters
        | none => []) := by
  induction frames with
  | nil => rfl
  | cons frame rest ih =>
    cases frame with
    | scope scope =>
      obtain ⟨opener, node, inSpecification, nested⟩ := scope
      cases node with
      | programUnit node => rfl
      | procedure node => exact ih
    | interface _ _ => exact ih
    | derivedType _ _ => exact ih
    | construct _ _ => exact ih

/-! ## Procedures and the blocks that take them -/

/-- What the block that takes a procedure says about it: the module that holds it
directly, and whether it is the body of an interface. -/
def Block.holding (block : Block) : Attempt (Option String × Bool) := do
  if block.kind == .interface then
    let _ ← block.node.interface?
    pure (none, true)
  else if isProcedure block.kind then
    let _ ← block.node.procedure?
    pure (none, false)
  else
    let node ← block.node.programUnit?
    pure (if node.isModule then some node.name else none, false)

/-- Put a procedure into the block that takes it. -/
def Block.take (procedure : Procedure) (block : Block) : Attempt Block := do
  if block.kind == .interface then
    let node ← block.node.interface?
    pure { block with node := .interface { node with bodies := node.bodies ++ [procedure] } }
  else if isProcedure block.kind then
    let node ← block.node.procedure?
    pure { block with node := .procedure { node with children := node.children ++ [procedure] } }
  else
    let node ← block.node.programUnit?
    pure
      { block with
        node := .programUnit { node with procedures := node.procedures ++ [procedure] } }

/-- What the holder of a procedure at its start says. -/
def holding (stack : List Block) : Attempt (Option String × Bool) :=
  match innermost? isHolder stack with
  | some block => block.holding
  | none => pure (none, false)

theorem holding_eq (header : Statement.Header) (startLine : Nat) (frames : List Frame) :
    (holding (frames.map .ofFrame)).map (fun (module, isInterfaceBody) =>
        { Procedure.begin header startLine none with module, isInterfaceBody }) =
      some (.begin header startLine (Frames.holder? frames)) ∧
    (innermost? isHolder (frames.map .ofFrame)).isNone = (Frames.holder? frames).isNone := by
  induction frames with
  | nil => exact ⟨rfl, rfl⟩
  | cons frame rest ih =>
    cases frame with
    | scope scope =>
      obtain ⟨opener, node, inSpecification, nested⟩ := scope
      cases node <;> exact ⟨rfl, rfl⟩
    | interface _ _ => exact ⟨rfl, rfl⟩
    | derivedType _ _ => exact ih
    | construct _ _ => exact ih

/-- The block that takes a procedure has room for it. -/
theorem mapInnermost_isHolder (procedure : Procedure) (frames : List Frame) :
    mapInnermost isHolder (Block.take procedure) (frames.map .ofFrame) =
      some (((Frames.attach? procedure frames).getD frames).map .ofFrame) ∧
    (innermost? isHolder (frames.map .ofFrame)).isSome =
      (Frames.attach? procedure frames).isSome := by
  induction frames with
  | nil => exact ⟨rfl, rfl⟩
  | cons frame rest ih =>
    cases frame with
    | scope scope =>
      obtain ⟨opener, node, inSpecification, nested⟩ := scope
      cases node <;> exact ⟨rfl, rfl⟩
    | interface _ _ => exact ⟨rfl, rfl⟩
    | derivedType opener name =>
      obtain ⟨mapped, some_eq⟩ := ih
      refine ⟨(congrArg (Option.map _) mapped).trans ?_, some_eq.trans ?_⟩ <;>
        cases attached : Frames.attach? procedure rest <;> simp [Frames.attach?, attached]
    | construct opener kind =>
      obtain ⟨mapped, some_eq⟩ := ih
      refine ⟨(congrArg (Option.map _) mapped).trans ?_, some_eq.trans ?_⟩ <;>
        cases attached : Frames.attach? procedure rest <;> simp [Frames.attach?, attached]

end FortranStyle.Position
