import FortranStyle.Program.ProgramUnit

/-!
# Open blocks

While a source is read, the blocks that are open stand in a list of frames, the
innermost one first.  A frame holds its unit, procedure or interface as far as it
has been read; a block takes its place in the block around it when it closes.
-/

namespace FortranStyle

/-- A program unit or procedure: what statements are recorded in. -/
inductive ScopeNode
  | programUnit (node : ProgramUnit)
  | procedure (node : Procedure)

namespace ScopeNode

/-- The kind of block. -/
def kind : ScopeNode → BlockKind
  | programUnit node => .unit node.kind
  | procedure node => .procedure node.kind

/-- The name as it is written. -/
def name : ScopeNode → String
  | programUnit node => node.name
  | procedure node => node.name

/-- Change what the specification part says. -/
def mapSpecification (f : Specification → Specification) : ScopeNode → ScopeNode
  | programUnit node => .programUnit { node with specification := f node.specification }
  | procedure node => .procedure { node with specification := f node.specification }

/-- Change the node if it is a program unit. -/
def mapUnit (f : ProgramUnit → ProgramUnit) : ScopeNode → ScopeNode
  | programUnit node => .programUnit (f node)
  | node => node

/-- Change the node if it is a procedure. -/
def mapProcedure (f : Procedure → Procedure) : ScopeNode → ScopeNode
  | procedure node => .procedure (f node)
  | node => node

/-- Add an interface block. -/
def addInterface (block : Interface) : ScopeNode → ScopeNode
  | programUnit node => .programUnit { node with interfaces := node.interfaces ++ [block] }
  | procedure node => .procedure { node with interfaces := node.interfaces ++ [block] }

/-- Add a procedure. -/
def addProcedure (child : Procedure) : ScopeNode → ScopeNode
  | programUnit node => .programUnit { node with procedures := node.procedures ++ [child] }
  | procedure node => .procedure { node with children := node.children ++ [child] }

end ScopeNode

/-- An open program unit or procedure. -/
structure Scope where
  /-- The first token of the opening statement. -/
  opener : Token
  node : ScopeNode
  /-- No executable statement and no CONTAINS has been met. -/
  inSpecification : Bool
  /-- The program units that started inside and have ended. -/
  nested : List ProgramUnit

/-- An open block. -/
inductive Frame
  | scope (scope : Scope)
  | interface (opener : Token) (block : Interface)
  | derivedType (opener : Token) (name : String)
  | construct (opener : Token) (kind : ConstructKind)

namespace Frame

/-- The kind of block. -/
def kind : Frame → BlockKind
  | scope inner => inner.node.kind
  | interface .. => .interface
  | derivedType .. => .derivedType
  | construct _ kind => .construct kind

/-- The first token of the opening statement. -/
def opener : Frame → Token
  | scope inner => inner.opener
  | interface opener _ => opener
  | derivedType opener _ => opener
  | construct opener _ => opener

/-- The name of the block, which is its word for a construct. -/
def name : Frame → String
  | scope inner => inner.node.name
  | interface _ block => block.name.getD ""
  | derivedType _ name => name
  | construct _ kind => kind.word

/-- Whether the block is a program unit or procedure. -/
def isScope : Frame → Bool
  | scope _ => true
  | _ => false

end Frame

namespace Frames

/-- The innermost program unit or procedure. -/
def scope? : List Frame → Option Scope
  | [] => none
  | .scope scope :: _ => some scope
  | _ :: rest => scope? rest

/-- The innermost program unit, even from inside a procedure. -/
def programUnit? : List Frame → Option ProgramUnit
  | [] => none
  | .scope ⟨_, .programUnit node, _, _⟩ :: _ => some node
  | _ :: rest => programUnit? rest

/-- The innermost scope when it is a procedure. -/
def procedure? (frames : List Frame) : Option Procedure :=
  match scope? frames with
  | some ⟨_, .procedure node, _, _⟩ => some node
  | _ => none

/-- Change the innermost program unit or procedure. -/
def mapScope (f : Scope → Scope) : List Frame → List Frame
  | [] => []
  | .scope scope :: rest => .scope (f scope) :: rest
  | frame :: rest => frame :: mapScope f rest

/-- Change what is recorded in the innermost program unit or procedure. -/
def mapNode (f : ScopeNode → ScopeNode) : List Frame → List Frame :=
  mapScope fun scope => { scope with node := f scope.node }

/-- Change the innermost program unit, even from inside a procedure. -/
def mapProgramUnit (f : ProgramUnit → ProgramUnit) : List Frame → List Frame
  | [] => []
  | .scope ⟨opener, .programUnit node, inSpecification, nested⟩ :: rest =>
      .scope ⟨opener, .programUnit (f node), inSpecification, nested⟩ :: rest
  | frame :: rest => frame :: mapProgramUnit f rest

/-- The frame that takes a procedure: the innermost interface, procedure or
program unit. -/
def holder? : List Frame → Option Frame
  | [] => none
  | .scope scope :: _ => some (.scope scope)
  | .interface opener block :: _ => some (.interface opener block)
  | _ :: rest => holder? rest

/-- Put a procedure into the innermost interface, procedure or program unit;
nothing when there is none. -/
def attach? (procedure : Procedure) : List Frame → Option (List Frame)
  | [] => none
  | .scope scope :: rest =>
      some (.scope { scope with node := scope.node.addProcedure procedure } :: rest)
  | .interface opener block :: rest =>
      some (.interface opener { block with bodies := block.bodies ++ [procedure] } :: rest)
  | frame :: rest => (attach? procedure rest).map (frame :: ·)

/-- The number of frames above the one that an END statement closes.  A bare END
closes the innermost program unit or procedure; the END of any other block does
not reach past it. -/
def reach? (kind : Option BlockKind) : List Frame → Option Nat
  | [] => none
  | frame :: rest =>
      let closes := match kind with
        | none => frame.isScope
        | some kind => frame.kind == kind
      if closes then some 0
      else if frame.isScope && kind.any (!·.isScope) then none
      else (reach? kind rest).map (· + 1)

end Frames

end FortranStyle
