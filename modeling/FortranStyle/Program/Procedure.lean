import FortranStyle.Block
import FortranStyle.Program.Declaration
import FortranStyle.Statement.Action

/-!
# Procedures and interface blocks

A procedure holds internal procedures and interface blocks, and an interface
block holds procedures that have headers and declarations only.
-/

namespace FortranStyle

/-- An interface block, with its bodies. -/
structure InterfaceBlock (Body : Type) where
  /-- The name or operator in small letters. -/
  name : Option String
  /-- The word INTERFACE. -/
  token : Token
  isAbstract : Bool
  bodies : List Body
  /-- The names in its PROCEDURE statements, in small letters. -/
  moduleProcedures : List String

/-- A function or subroutine. -/
structure Procedure where
  kind : ProcedureKind
  token : Token
  startLine : Nat
  endLine : Nat
  /-- The marks in front of its header, in small letters. -/
  marks : List String
  arguments : List Argument
  /-- The name in its RESULT clause. -/
  result : Option String
  visibility : Visibility
  /-- The module that holds it directly. -/
  module : Option String
  isInterfaceBody : Bool
  specification : Specification
  /-- The actions of its executable statements. -/
  actions : List Statement.Action
  children : List Procedure
  interfaces : List (InterfaceBlock Procedure)

/-- An interface block of a program. -/
abbrev Interface := InterfaceBlock Procedure

namespace Procedure

/-- The name as it is written. -/
def name (procedure : Procedure) : String :=
  procedure.token.text

/-- The name in small letters. -/
def lowerName (procedure : Procedure) : String :=
  procedure.token.lower

/-- The assignments in the body, as the names they assign to. -/
def assignments (procedure : Procedure) : List Token :=
  procedure.actions.filterMap fun
    | .assignment target => some target
    | .effect .. => none

/-- The statements in the body that have an effect of their own. -/
def effects (procedure : Procedure) : List (String × Token × Option String) :=
  procedure.actions.filterMap fun
    | .effect words token unit => some (words, token, unit)
    | .assignment _ => none

/-- The prefix of public names in a module: the name of the module and an
underscore. -/
def namePrefix (procedure : Procedure) : Option String :=
  procedure.module.map fun name => Text.lower name ++ "_"

/-- Whether the header declares the procedure free of side effects. -/
def isDeclaredPure (procedure : Procedure) : Bool :=
  procedure.marks.contains "pure" || procedure.marks.contains "elemental"

/-- The first dummy argument of a name, given in small letters. -/
def argument? (procedure : Procedure) (name : String) : Option Argument :=
  procedure.arguments.find? (·.name == name)

/-- The names declared in the procedure that are no arguments of it. -/
def localNames (procedure : Procedure) : List String :=
  procedure.specification.names.filter fun name => (procedure.argument? name).isNone

/-- The name of a function's result in small letters. -/
def resultName (procedure : Procedure) : String :=
  Text.lower (procedure.result.getD procedure.name)

/-- How the intent of an argument is shown. -/
def intentText : Option String → String
  | some intent => if intent = "" then "no intent" else s!"intent({intent})"
  | none => "no intent"

/-- The side effect of an assignment: to a dummy argument that does not leave
the procedure, or to a variable of the host. -/
def assignmentEffect? (procedure : Procedure) (host : List String) (target : Token) :
    Option (Token × String) :=
  let name := target.lower
  match procedure.argument? name with
  | some argument =>
      if argument.intent = some "out" ∨ argument.intent = some "inout" then none
      else
        some (target, s!"assigns to dummy argument '{name}' declared with " ++
          intentText argument.intent)
  | none =>
      if host.contains name && !procedure.localNames.contains name &&
          name != procedure.resultName then
        some (target, s!"assigns to host variable '{name}'")
      else
        none

/-- The side effect of reading, writing or stopping.  A local unit is an
internal file. -/
def statementEffect? (procedure : Procedure) : String × Token × Option String →
    Option (Token × String)
  | (words, token, unit) =>
      if ["read", "write"].contains words && unit.any (procedure.localNames.contains ·) then none
      else some (token, s!"executes a {Text.upper words} statement")

/-- The statements of the body whose effect is visible outside, assignments
first.  Calls and pointers are not followed. -/
def sideEffects (procedure : Procedure) (host : List String) : List (Token × String) :=
  procedure.assignments.filterMap (procedure.assignmentEffect? host) ++
    procedure.effects.filterMap procedure.statementEffect?

/-- Whether no side effect is visible without knowing the host. -/
def isPure (procedure : Procedure) : Bool :=
  (procedure.sideEffects []).isEmpty

end Procedure

end FortranStyle
