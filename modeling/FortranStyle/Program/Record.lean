import FortranStyle.Program.ScanState
import FortranStyle.Statement.Entity
import FortranStyle.Statement.Header

/-!
# Recording statements of a specification part

What each specification statement adds to the program unit or procedure it
stands in.
-/

namespace FortranStyle

/-! ## Type declarations -/

/-- Whether a local array of a procedure is automatic: it is no argument, it has
bounds, it is neither allocatable nor a pointer nor a constant, and its bounds
mention a name that is no named constant. -/
def Declaration.hasRunTimeBounds (declaration : Declaration) (constants : List String) : Bool :=
  !declaration.dimension.isEmpty && !declaration.has "allocatable" &&
    !declaration.has "pointer" && !declaration.isParameter &&
    declaration.dimension.any fun token =>
      token.kind == .identifier && !constants.contains token.lower

/-- Record a declaration in a procedure.  The declaration of an argument tells
its intent and whether it is a procedure. -/
def Procedure.declare (procedure : Procedure) (unitConstants : List String)
    (declaration : Declaration) : Procedure :=
  let name := declaration.name
  let constants := procedure.specification.parameters ++ unitConstants
  let isArgument := (procedure.argument? name).isSome
  let declaration :=
    { declaration with
      isAutomatic := !isArgument && declaration.hasRunTimeBounds constants }
  let arguments := match declaration.intent with
    | some intent => Argument.setIntent intent name procedure.arguments
    | none => procedure.arguments
  let arguments :=
    if declaration.typeName == "procedure" || declaration.has "external" then
      Argument.markProcedure name arguments
    else
      arguments
  { procedure with
    arguments
    specification :=
      { procedure.specification with
        declarations := procedure.specification.declarations ++ [declaration] } }

/-- Record a declaration in a program unit.  In a module its attributes may make
the name public or private. -/
def ProgramUnit.declare (programUnit : ProgramUnit) (declaration : Declaration) : ProgramUnit :=
  let granted :=
    if programUnit.isModule then
      programUnit.grant declaration.visibility declaration.name declaration.token
    else
      programUnit
  { granted with
    specification :=
      { granted.specification with
        declarations := granted.specification.declarations ++ [declaration] } }

/-- Record a declaration in a program unit or procedure. -/
def ScopeNode.declare (unitConstants : List String) (node : ScopeNode)
    (declaration : Declaration) : ScopeNode :=
  match node with
  | programUnit node => .programUnit (node.declare declaration)
  | procedure node => .procedure (node.declare unitConstants declaration)

namespace ScanState

/-- Record a type declaration statement. -/
def recordDeclaration (state : ScanState) (tokens : List Token) : ScanState :=
  let constants := match Frames.programUnit? state.frames with
    | some programUnit => programUnit.specification.parameters
    | none => []
  let declarations := (Statement.typeDeclaration tokens).declarations
  state.mapNode fun node => declarations.foldl (ScopeNode.declare constants) node

/-! ## Names of other modules -/

end ScanState

/-- Read a USE statement, which names a module behind the word and perhaps a
nature and a double colon. -/
def Use.ofStatement? : List Token → Option Use
  | [] => none
  | token :: rest =>
      let hasNature := rest.head?.any (·.isOp ",")
      let isIntrinsic := hasNature && rest[1]?.any (·.isWord "intrinsic")
      let rest := if hasNature then rest.drop 2 else rest
      let rest := if rest.head?.any (·.isOp "::") then rest.drop 1 else rest
      match rest with
      | [] => none
      | name :: rest =>
          if name.isName then
            let only := match rest with
              | comma :: word :: colon :: items =>
                  if comma.isOp "," && word.isWord "only" && colon.isOp ":" then
                    some (((Bracket.items items).filter (!·.isEmpty)).map Statement.localName)
                  else
                    none
              | _ => none
            some { token, name, only, isIntrinsic }
          else
            none

namespace ScanState

/-- Record a USE statement in its scope, or among the misplaced ones when the
specification part is over. -/
def recordUse (state : ScanState) (tokens : List Token) : ScanState :=
  match Use.ofStatement? tokens with
  | none => state
  | some found =>
      if (Frames.scope? state.frames).any (·.inSpecification) then
        state.mapNode (·.mapSpecification fun specification =>
          { specification with uses := specification.uses ++ [found] })
      else
        { state with misplacedUses := state.misplacedUses ++ [found] }

/-- Record IMPLICIT NONE. -/
def recordImplicit (state : ScanState) (tokens : List Token) : ScanState :=
  if (Frames.scope? state.frames).any (·.inSpecification) &&
      tokens[1]?.any (·.isWord "none") then
    state.mapNode (·.mapSpecification fun specification =>
      { specification with implicitNone := true })
  else
    state

/-- Record a SAVE statement. -/
def recordSave (state : ScanState) (token : Token) : ScanState :=
  state.mapNode (·.mapSpecification fun specification =>
    { specification with saves := specification.saves ++ [token] })

end ScanState

/-! ## Visibility -/

/-- Record a PUBLIC or PRIVATE statement: without names it sets the default, and
otherwise the visibility of each name. -/
def ProgramUnit.recordAccess (programUnit : ProgramUnit) (visibility : Visibility)
    (word : Token) (rest : List Token) : ProgramUnit :=
  if rest.isEmpty then
    { programUnit with access := some (visibility, word) }
  else
    (Bracket.items rest).foldl (fun found item =>
      match item with
      | [] => found
      | token :: more =>
          found.grant (some visibility) (Statement.localName (token :: more)) token)
      programUnit

namespace ScanState

/-- Record a PUBLIC or PRIVATE statement in a module. -/
def recordAccess (state : ScanState) (visibility : Visibility) (word : Token)
    (rest : List Token) : ScanState :=
  let rest := if rest.head?.any (·.isOp "::") then rest.drop 1 else rest
  state.mapNode (·.mapUnit fun node =>
    if node.isModule then node.recordAccess visibility word rest else node)

/-! ## Arguments -/

/-- Change the procedure that is the innermost scope. -/
def mapProcedure (state : ScanState) (f : Procedure → Procedure) : ScanState :=
  state.mapNode (·.mapProcedure f)

/-- Record an INTENT statement.  Its names are listed from the closing bracket
on. -/
def recordIntent (state : ScanState) (tokens : List Token) : ScanState :=
  let rest := tokens.drop 1
  if rest.head?.any (·.isOp "(") then
    let intent := Statement.Attributes.intentOf (Bracket.inside rest)
    let names := Statement.listedNames (rest.drop (Bracket.partner rest))
    state.mapProcedure fun node =>
      { node with
        arguments := names.foldl (fun found name => Argument.setIntent intent name.lower found)
          node.arguments }
  else
    state

/-- Record an EXTERNAL statement. -/
def recordExternal (state : ScanState) (tokens : List Token) : ScanState :=
  state.mapProcedure fun node =>
    { node with
      arguments := (Statement.listedNames tokens).foldl
        (fun found name => Argument.markProcedure name.lower found) node.arguments }

/-! ## Members of interfaces and enumerations -/

/-- Record the names of a PROCEDURE statement in an interface block. -/
def recordMember (state : ScanState) (tokens : List Token) : ScanState :=
  let tokens := match tokens with
    | first :: second :: rest =>
        if first.isWord "module" then second :: rest else first :: second :: rest
    | tokens => tokens
  match tokens, state.frames with
  | first :: rest, .interface opener block :: frames =>
      if first.isWord "procedure" then
        let names := (Statement.listedNames (first :: rest)).map (·.lower)
        let block := { block with moduleProcedures := block.moduleProcedures ++ names }
        { state with frames := .interface opener block :: frames }
      else
        state
  | _, _ => state

/-- Record the names of an ENUMERATOR statement in the innermost program
unit. -/
def recordEnumerators (state : ScanState) (tokens : List Token) : ScanState :=
  if tokens.head?.any (·.isWord "enumerator") then
    let names := (Statement.listedNames tokens).map (·.lower)
    state.mapFrames (Frames.mapProgramUnit fun node =>
      { node with enumerators := node.enumerators ++ names })
  else
    state

/-! ## Executable statements -/

/-- Record an executable statement: it ends the specification part of its scope,
and its action belongs to its procedure. -/
def recordExecutable (state : ScanState) (tokens : List Token) : ScanState :=
  let ended := state.mapFrames (Frames.mapScope fun scope =>
    { scope with inSpecification := false })
  match Statement.action? tokens with
  | some action =>
      ended.mapProcedure fun node => { node with actions := node.actions ++ [action] }
  | none => ended

end ScanState

end FortranStyle
