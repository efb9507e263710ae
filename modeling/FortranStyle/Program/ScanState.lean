import FortranStyle.Program.Frame
import FortranStyle.Program.Outline

/-!
# The state of a scan

What is known of a source after some of its statements: the open blocks, and the
parts of the outline that are complete.
-/

namespace FortranStyle

/-- What is known after some statements. -/
structure ScanState where
  /-- The open blocks, the innermost one first. -/
  frames : List Frame
  /-- The program units that have ended and stand in no open block. -/
  units : List ProgramUnit
  external : List Procedure
  topLevel : List Heading
  misplacedUses : List Use
  errors : List StructuralError
  /-- Lines with the depth of a statement that starts there, the latest
  first. -/
  depths : List (Nat × Nat)

namespace ScanState

/-- The start of a source. -/
def initial : ScanState :=
  ⟨[], [], [], [], [], [], []⟩

/-- The number of open blocks. -/
def depth (state : ScanState) : Nat :=
  state.frames.length

/-- Record an error at a token. -/
def report (state : ScanState) (cause : StructuralCause) (token : Token) : ScanState :=
  { state with errors := state.errors ++ [⟨cause, token.line, token.column⟩] }

/-- Record the depth of the line of a token. -/
def recordDepth (state : ScanState) (token : Token) (depth : Nat) : ScanState :=
  { state with depths := (token.line, depth) :: state.depths }

/-- Change the open blocks. -/
def mapFrames (state : ScanState) (f : List Frame → List Frame) : ScanState :=
  { state with frames := f state.frames }

/-- Change what is recorded in the innermost program unit or procedure. -/
def mapNode (state : ScanState) (f : ScopeNode → ScopeNode) : ScanState :=
  state.mapFrames (Frames.mapNode f)

/-- Open a block. -/
def push (state : ScanState) (frame : Frame) : ScanState :=
  { state with frames := frame :: state.frames }

/-- Add program units that have ended to the scope around them. -/
def addUnits (state : ScanState) (units : List ProgramUnit) : ScanState :=
  if (Frames.scope? state.frames).isSome then
    state.mapFrames (Frames.mapScope fun scope => { scope with nested := scope.nested ++ units })
  else
    { state with units := state.units ++ units }

/-- Put a procedure that has ended into the block that takes it. -/
def addProcedure (state : ScanState) (procedure : Procedure) : ScanState :=
  match Frames.attach? procedure state.frames with
  | some frames => { state with frames }
  | none => { state with external := state.external ++ [procedure] }

end ScanState

/-- Mark the first argument of a name as a procedure. -/
def Argument.markProcedure (name : String) : List Argument → List Argument
  | [] => []
  | argument :: rest =>
      if argument.name == name then { argument with isProcedure := true } :: rest
      else argument :: markProcedure name rest

/-- Set the intent of the first argument of a name. -/
def Argument.setIntent (intent name : String) : List Argument → List Argument
  | [] => []
  | argument :: rest =>
      if argument.name == name then { argument with intent := some intent } :: rest
      else argument :: setIntent intent name rest

/-- A procedure at its end: the arguments that an interface block describes are
procedures. -/
def Procedure.finish (procedure : Procedure) (endLine : Nat) : Procedure :=
  let described := procedure.interfaces.flatMap fun block => block.bodies.map (·.lowerName)
  { procedure with
    endLine
    arguments := described.foldl (fun found name => Argument.markProcedure name found)
      procedure.arguments }

/-- A program unit at its end: only now the visibility of its procedures is
known. -/
def ProgramUnit.finish (programUnit : ProgramUnit) (endLine : Nat) : ProgramUnit :=
  { programUnit with
    endLine
    procedures := programUnit.procedures.map fun procedure =>
      { procedure with visibility := programUnit.visibilityOf procedure.name } }

namespace ScanState

/-- Close the innermost block at a line. -/
def closeTop (state : ScanState) (endLine : Nat) : ScanState :=
  match state.frames with
  | [] => state
  | .scope ⟨_, .programUnit node, _, nested⟩ :: rest =>
      { state with frames := rest }.addUnits (node.finish endLine :: nested)
  | .scope ⟨_, .procedure node, _, nested⟩ :: rest =>
      ({ state with frames := rest }.addProcedure (node.finish endLine)).addUnits nested
  | .interface _ block :: rest =>
      { state with frames := Frames.mapNode (·.addInterface block) rest }
  | _ :: rest => { state with frames := rest }

end ScanState

end FortranStyle
