import FortranStyle.Rule.Finding
import FortranStyle.Settings
import FortranStyle.Source

/-!
# Rules on the outline

Modules and their visibility, USE statements, arguments, declarations, and the
side effects of functions.
-/

namespace FortranStyle

/-! ## Walking the outline -/

namespace Outline

/-- The modules of a source. -/
def modules (outline : Outline) : List ProgramUnit :=
  outline.units.filter (·.kind == .module)

/-- The specification parts of a source: those of program units first, and then
those of procedures.  The second component is the procedure, if it is one. -/
def specifications (outline : Outline) : List (Specification × Option Procedure) :=
  (outline.units.map fun programUnit => (programUnit.specification, none)) ++
    outline.procedures.map fun (procedure, _) => (procedure.specification, some procedure)

/-- The declarations of a source, with the procedure that holds them, if it is
one. -/
def declarations (outline : Outline) : List (Declaration × Option Procedure) :=
  outline.specifications.flatMap fun (specification, holder) =>
    specification.declarations.map (·, holder)

end Outline

mutual

/-- A procedure and the procedures inside it, bodies of interfaces left out, each
with the variables of its hosts. -/
def Procedure.hosted (host : List String) : Procedure → List (Procedure × List String)
  | ⟨kind, token, startLine, endLine, marks, arguments, result, visibility, module,
      isInterfaceBody, specification, actions, children, interfaces⟩ =>
    let procedure : Procedure :=
      ⟨kind, token, startLine, endLine, marks, arguments, result, visibility, module,
        isInterfaceBody, specification, actions, children, interfaces⟩
    (procedure, host) :: Procedure.hostedList (host ++ procedure.localNames) children

/-- Successive procedures and the procedures inside them, each with the variables
of its hosts. -/
def Procedure.hostedList (host : List String) : List Procedure → List (Procedure × List String)
  | [] => []
  | procedure :: rest => procedure.hosted host ++ Procedure.hostedList host rest

end

/-- The variables of a program unit. -/
def ProgramUnit.variables (programUnit : ProgramUnit) : List String :=
  (programUnit.specification.declarations.filter (!·.isParameter)).map (·.name)

/-- The procedures of a source with the variables of their hosts. -/
def Outline.hosted (outline : Outline) : List (Procedure × List String) :=
  (outline.units.flatMap fun programUnit =>
    Procedure.hostedList programUnit.variables programUnit.procedures) ++
    Procedure.hostedList [] outline.external

namespace Rule

/-! ## Program units -/

/-- The word for a kind of program unit at the start of a sentence. -/
def unitCaption : UnitKind → String
  | .program => "Program"
  | .module => "Module"
  | .submodule => "Submodule"

/-- A program or module without IMPLICIT NONE. -/
def checkImplicitNone (source : Source) : List Finding :=
  (source.outline.units.filter fun programUnit =>
    programUnit.kind != .submodule && !programUnit.specification.implicitNone).map
    fun programUnit =>
      Finding.at' programUnit.token
        (s!"{unitCaption programUnit.kind} '{programUnit.name}' has no IMPLICIT NONE in its " ++
          "specification part")

/-- A file that does not hold exactly one program unit or external
procedure. -/
def checkOneUnit (source : Source) : List Finding :=
  match source.outline.topLevel with
  | [] => [⟨1, 1, "File contains no program unit or procedure"⟩]
  | [_] => []
  | _ :: second :: rest =>
      [Finding.at' second.token
        (s!"File holds {rest.length + 2} top-level units; {second.kind.word} " ++
          s!"'{second.token.text}' should be in a file of its own")]

/-! ## Visibility -/

/-- What a module exports without naming it, or that it exports nothing. -/
def checkDefaultAccess (module : ProgramUnit) : List Finding :=
  let place := (module.access.map (·.2)).getD module.token
  if module.access.map (·.1) ≠ some .isPrivate then
    let implicit := Text.sortedSet (module.publicSymbols.filter (!module.isListedPublic ·))
    if implicit.isEmpty then []
    else
      [Finding.at' place
        (s!"Module '{module.name}' is not PRIVATE by default and implicitly exports " ++
          Finding.nameList implicit 5)]
  else if module.publicNames.isEmpty then
    [Finding.at' place
      s!"Module '{module.name}' is PRIVATE by default but makes nothing PUBLIC"]
  else
    []

/-- The names that a module makes public and does not define.  A module that
imports names without listing them may have got them there. -/
def checkListedNames (module : ProgramUnit) : List Finding :=
  if module.specification.uses.any (·.only.isNone) then []
  else
    (module.publicNames.filter fun (name, _) => !module.symbols.contains name).map
      fun (name, token) =>
        Finding.at' token s!"PUBLIC name '{name}' is not defined in module '{module.name}'"

/-- Modules whose visibility is not explicit. -/
def checkVisibility (source : Source) : List Finding :=
  source.outline.modules.flatMap fun module =>
    checkDefaultAccess module ++ checkListedNames module

/-- A public procedure of a module without the name of the module in front of
its own. -/
def checkNamePrefix (source : Source) : List Finding :=
  source.outline.modules.flatMap fun module =>
    module.procedures.filterMap fun procedure =>
      match procedure.namePrefix with
      | some first =>
          if procedure.visibility = .isPublic ∧
              ¬ first.toList <+: procedure.lowerName.toList then
            some (Finding.at' procedure.token
              (s!"Public {procedure.kind.word} '{procedure.name}' should be named with the " ++
                s!"prefix '{first}'"))
          else
            none
      | none => none

/-- The setup module makes public its setup procedures and nothing else. -/
def checkSetupModule (options : Options) (module : ProgramUnit) : List Finding :=
  let expected := options.setupProcedures.map Text.lower
  let exposed := module.publicSymbols
  let procedures := module.procedures.map (·.lowerName)
  let surplus := Text.sortedSet (exposed.filter (!expected.contains ·))
  let missing := expected.filter fun name => !exposed.contains name || !procedures.contains name
  (surplus.map fun name =>
    Finding.at' (module.symbolToken name)
      (s!"Setup module '{module.name}' exposes '{name}'; only " ++ ", ".intercalate expected ++
        " may be public")) ++
    missing.map fun name =>
      Finding.at' module.token
        s!"Setup module '{module.name}' does not expose a procedure named '{name}'"

/-- A setup module that exposes more or less than it should. -/
def checkSetup (source : Source) (options : Options) : List Finding :=
  (source.outline.modules.filter fun module =>
    Text.lower module.name == Text.lower options.setupModule).flatMap (checkSetupModule options)

/-! ## USE statements -/

/-- A USE statement without an ONLY list. -/
def checkOnly (source : Source) (options : Options) : List Finding :=
  ((source.outline.specifications.flatMap (·.1.uses)).filter fun item =>
    item.only.isNone && !options.exemptsFromOnly item.name.text).map fun item =>
      Finding.at' item.token s!"USE {item.name.text} has no ONLY list"

/-- A USE statement behind the specification part. -/
def checkUsePlacement (source : Source) : List Finding :=
  source.outline.misplacedUses.map fun item =>
    Finding.at' item.token
      s!"USE {item.name.text} appears after an executable statement or CONTAINS"

/-! ## Arguments and side effects -/

/-- A dummy argument without an intent. -/
def checkIntent (source : Source) : List Finding :=
  source.outline.procedures.flatMap fun (procedure, _) =>
    (procedure.arguments.filter fun argument =>
      argument.intent.isNone && !argument.isProcedure).map fun argument =>
        Finding.at' argument.token
          (s!"Dummy argument '{argument.name}' of {procedure.kind.word} '{procedure.name}' " ++
            "has no explicit INTENT")

/-- A side effect of a function. -/
def checkSideEffects (source : Source) : List Finding :=
  source.outline.hosted.flatMap fun (procedure, host) =>
    if procedure.kind = .function then
      let label := if procedure.isDeclaredPure then "Pure function" else "Function"
      (procedure.sideEffects host).map fun (token, effect) =>
        Finding.at' token s!"{label} '{procedure.name}' {effect}"
    else
      []

/-! ## Declarations -/

/-- The types whose declarations have to name a kind, with the old spellings
that cannot. -/
def kindRequired : List String :=
  ["real", "complex", "double precision", "double complex", "doubleprecision", "doublecomplex"]

/-- A real or complex entity without a kind parameter, or initialised with a
literal of another kind. -/
def checkDeclarationKind (source : Source) : List Finding :=
  source.outline.declarations.flatMap fun (declaration, _) =>
    if kindRequired.contains declaration.typeName then
      match declaration.kind with
      | none =>
          [Finding.at' declaration.token
            (s!"'{declaration.name}' is declared {Text.upper declaration.typeName} without a " ++
              "kind parameter")]
      | some kind =>
          let declared := Text.lower kind
          (declaration.literalKinds.filter (·.1 != declared)).map fun (suffix, token) =>
            Finding.at' token
              (s!"Initializer {token.text} has kind '{suffix}' but '{declaration.name}' is " ++
                s!"declared with kind '{declared}'")
    else
      []

/-- Whether a declaration saves a local variable without saying so: it
initialises a variable that is no argument. -/
def isSavedSilently (declaration : Declaration) (holder : Option Procedure) : Bool :=
  holder.any fun procedure =>
    declaration.isInitialized && !declaration.isParameter && !declaration.has "pointer" &&
      (procedure.argument? declaration.name).isNone

/-- SAVE statements, SAVE attributes, and variables saved by their
initialisation. -/
def checkSaved (source : Source) : List Finding :=
  (source.outline.specifications.flatMap fun (specification, _) =>
    specification.saves.map (Finding.at' · "SAVE statement used")) ++
    source.outline.declarations.filterMap fun (declaration, holder) =>
      if declaration.has "save" then
        some (Finding.at' declaration.token
          s!"'{declaration.name}' is declared with the SAVE attribute")
      else if isSavedSilently declaration holder then
        some (Finding.at' declaration.token
          (s!"Local variable '{declaration.name}' is initialised in its declaration, " ++
            "which implies SAVE"))
      else
        none

/-- A local array whose bounds are known only when its procedure runs. -/
def checkAutomatic (source : Source) : List Finding :=
  (source.outline.declarations.filter (·.1.isAutomatic)).map fun (declaration, _) =>
    Finding.at' declaration.token
      (s!"Local array '{declaration.name}' is an automatic array; declare it " ++
        "ALLOCATABLE")

end Rule

end FortranStyle
