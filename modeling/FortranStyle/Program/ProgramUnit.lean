import FortranStyle.Program.Procedure

/-!
# Program units

Programs, modules and submodules, with the names they define and the
visibility of those names.
-/

namespace FortranStyle

/-- A derived type. -/
structure DerivedType where
  token : Token
  visibility : Option Visibility
deriving DecidableEq, Repr

/-- The name of a derived type as it is written. -/
def DerivedType.name (derivedType : DerivedType) : String :=
  derivedType.token.text

/-- A program, module or submodule. -/
structure ProgramUnit where
  kind : UnitKind
  token : Token
  startLine : Nat
  endLine : Nat
  specification : Specification
  /-- The visibility of names without one of their own, with the word that
  says so. -/
  access : Option (Visibility × Token)
  /-- Names made public one by one, in small letters. -/
  publicNames : List (String × Token)
  /-- Names made private one by one, in small letters. -/
  privateNames : List (String × Token)
  procedures : List Procedure
  derivedTypes : List DerivedType
  interfaces : List Interface
  /-- The names of enumerators. -/
  enumerators : List String
  /-- The line of CONTAINS. -/
  containsLine : Option Nat

namespace ProgramUnit

/-- The name as it is written. -/
def name (programUnit : ProgramUnit) : String :=
  programUnit.token.text

/-- Whether the unit is a module or submodule. -/
def isModule (programUnit : ProgramUnit) : Bool :=
  programUnit.kind != .program

/-- Whether a name, given in small letters, is made public by itself. -/
def isListedPublic (programUnit : ProgramUnit) (name : String) : Bool :=
  (programUnit.publicNames.lookup name).isSome

/-- Whether a name, given in small letters, is made private by itself. -/
def isListedPrivate (programUnit : ProgramUnit) (name : String) : Bool :=
  (programUnit.privateNames.lookup name).isSome

/-- The visibility of a name: its own, where PRIVATE comes before PUBLIC, or
else the default of the unit, or else public. -/
def visibilityOf (programUnit : ProgramUnit) (name : String) : Visibility :=
  if programUnit.isListedPrivate (Text.lower name) then .isPrivate
  else if programUnit.isListedPublic (Text.lower name) then .isPublic
  else (programUnit.access.map (·.1)).getD .isPublic

/-- The names that the unit defines, in small letters. -/
def definedNames (programUnit : ProgramUnit) : List String :=
  programUnit.procedures.map (·.lowerName) ++ programUnit.specification.names ++
    programUnit.derivedTypes.map (Text.lower ·.name) ++
    programUnit.interfaces.filterMap (·.name) ++ programUnit.enumerators

/-- The names that the unit defines or imports one by one. -/
def symbols (programUnit : ProgramUnit) : List String :=
  programUnit.definedNames ++
    programUnit.specification.uses.flatMap fun item => item.only.getD []

/-- The names that other units can use: the public names among those defined,
and all names made public one by one. -/
def publicSymbols (programUnit : ProgramUnit) : List String :=
  programUnit.definedNames.filter (programUnit.visibilityOf · = .isPublic) ++
    programUnit.publicNames.map (·.1)

/-- The token where a name is made public or defined, or else the name of the
unit. -/
def symbolToken (programUnit : ProgramUnit) (name : String) : Token :=
  let places :=
    (programUnit.publicNames.filter (·.1 == name)).map (·.2) ++
    (programUnit.procedures.filter (·.lowerName == name)).map (·.token) ++
    (programUnit.specification.declarations.filter (·.name == name)).map (·.token) ++
    (programUnit.derivedTypes.filter (Text.lower ·.name == name)).map (·.token) ++
    (programUnit.interfaces.filter (·.name == some name)).map (·.token)
  places.headD programUnit.token

/-- Make a name public or private.  The first statement about a name counts. -/
def grant (programUnit : ProgramUnit) (visibility : Option Visibility) (name : String)
    (token : Token) : ProgramUnit :=
  let name := Text.lower name
  match visibility with
  | some .isPublic =>
      if programUnit.isListedPublic name then programUnit
      else { programUnit with publicNames := programUnit.publicNames ++ [(name, token)] }
  | some .isPrivate =>
      if programUnit.isListedPrivate name then programUnit
      else { programUnit with privateNames := programUnit.privateNames ++ [(name, token)] }
  | none => programUnit

end ProgramUnit

end FortranStyle
