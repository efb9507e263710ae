import FortranStyle.Program.ProgramUnit
import FortranStyle.Program.StructuralError

/-!
# The outline of a source

The program units and procedures recovered from a source, the nesting depth of
its lines, and everything about its structure that is out of order.
-/

namespace FortranStyle

/-- A program unit or procedure that stands in no other. -/
structure Heading where
  kind : BlockKind
  token : Token
deriving DecidableEq, Repr

/-- The structure recovered from a source. -/
structure Outline where
  /-- The program units in the order in which they start. -/
  units : List ProgramUnit
  /-- The procedures outside any program unit. -/
  external : List Procedure
  /-- The units and procedures that stand in no other, in order. -/
  topLevel : List Heading
  /-- The depth of each line that starts a statement. -/
  lineDepths : List (Option Nat)
  errors : List StructuralError
  /-- The USE statements outside a specification part. -/
  misplacedUses : List Use

mutual

/-- A procedure, the procedures inside it and the bodies of its interfaces. -/
def Procedure.subtree : Procedure → List Procedure
  | ⟨kind, token, startLine, endLine, marks, arguments, result, visibility, module,
      isInterfaceBody, specification, actions, children, interfaces⟩ =>
    ⟨kind, token, startLine, endLine, marks, arguments, result, visibility, module,
        isInterfaceBody, specification, actions, children, interfaces⟩ ::
      (Procedure.forest children ++ Procedure.interfaceForest interfaces)

/-- The subtrees of successive procedures. -/
def Procedure.forest : List Procedure → List Procedure
  | [] => []
  | procedure :: rest => procedure.subtree ++ Procedure.forest rest

/-- The subtrees of the bodies of successive interface blocks. -/
def Procedure.interfaceForest : List (InterfaceBlock Procedure) → List Procedure
  | [] => []
  | ⟨_, _, _, bodies, _⟩ :: rest => Procedure.forest bodies ++ Procedure.interfaceForest rest

end

/-- All procedures of a program unit: those it holds first, and then the bodies
of its interfaces. -/
def ProgramUnit.allProcedures (programUnit : ProgramUnit) : List Procedure :=
  Procedure.forest programUnit.procedures ++ Procedure.interfaceForest programUnit.interfaces

namespace Outline

/-- Whether the structure could only be recovered in part. -/
def isPartial (outline : Outline) : Bool :=
  !outline.errors.isEmpty

/-- All procedures with the program unit that holds them. -/
def procedures (outline : Outline) : List (Procedure × Option ProgramUnit) :=
  (outline.units.flatMap fun programUnit =>
    programUnit.allProcedures.map (·, some programUnit)) ++
    (Procedure.forest outline.external).map (·, none)

end Outline

end FortranStyle
