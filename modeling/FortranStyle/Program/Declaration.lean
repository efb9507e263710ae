import FortranStyle.Token

/-!
# Declarations

What the specification part of a program unit or procedure records: imported
modules, declared entities and dummy arguments.
-/

namespace FortranStyle

/-- Whether a name can be used outside its module. -/
inductive Visibility
  | isPublic
  | isPrivate
deriving DecidableEq, Repr

/-- The word for a visibility. -/
def Visibility.word : Visibility → String
  | isPublic => "public"
  | isPrivate => "private"

/-- A USE statement. -/
structure Use where
  /-- The word USE. -/
  token : Token
  /-- The name of the module. -/
  name : Token
  /-- The local names of the ONLY clause, if there is one. -/
  only : Option (List String)
  /-- The statement is marked INTRINSIC. -/
  isIntrinsic : Bool
deriving DecidableEq, Repr

/-- A dummy argument. -/
structure Argument where
  token : Token
  intent : Option String
  isProcedure : Bool
deriving DecidableEq, Repr

/-- The name of an argument in small letters. -/
def Argument.name (argument : Argument) : String :=
  argument.token.lower

/-- One entity of a type declaration statement. -/
structure Declaration where
  token : Token
  typeName : String
  kind : Option String
  /-- The attributes in small letters. -/
  attributes : List String
  intent : Option String
  /-- The tokens between the brackets of its dimension. -/
  dimension : List Token
  /-- The tokens behind its sign of initialisation. -/
  initializer : List Token
  /-- It is a local array whose bounds are known only when its procedure
  runs. -/
  isAutomatic : Bool
deriving DecidableEq, Repr

namespace Declaration

/-- The name of an entity in small letters. -/
def name (declaration : Declaration) : String :=
  declaration.token.lower

/-- Whether the entity has the attribute. -/
def has (declaration : Declaration) (word : String) : Bool :=
  declaration.attributes.contains word

/-- Whether the entity is a named constant. -/
def isParameter (declaration : Declaration) : Bool :=
  declaration.has "parameter"

/-- Whether the entity is initialised in its declaration. -/
def isInitialized (declaration : Declaration) : Bool :=
  !declaration.initializer.isEmpty

/-- The visibility that the attributes give. -/
def visibilityIn (attributes : List String) : Option Visibility :=
  if attributes.contains "public" then some .isPublic
  else if attributes.contains "private" then some .isPrivate
  else none

/-- The visibility that the declaration gives. -/
def visibility (declaration : Declaration) : Option Visibility :=
  visibilityIn declaration.attributes

/-- The kind suffix of a numeric literal in small letters. -/
def suffix? (token : Token) : Option String :=
  if token.kind == .number && token.text.toList.contains '_' then
    some (Text.lower (String.ofList ((token.text.toList.dropWhile (· != '_')).drop 1)))
  else
    none

/-- The kind suffixes of the numbers in the initialisation. -/
def literalKinds (declaration : Declaration) : List (String × Token) :=
  declaration.initializer.filterMap fun token => (suffix? token).map (·, token)

end Declaration

/-- What the specification statements of a unit or procedure say. -/
structure Specification where
  uses : List Use
  declarations : List Declaration
  /-- The words of its SAVE statements. -/
  saves : List Token
  implicitNone : Bool
deriving DecidableEq, Repr

namespace Specification

/-- The specification part without statements. -/
def empty : Specification :=
  ⟨[], [], [], false⟩

/-- The names declared. -/
def names (specification : Specification) : List String :=
  specification.declarations.map (·.name)

/-- The named constants. -/
def parameters (specification : Specification) : List String :=
  (specification.declarations.filter (·.isParameter)).map (·.name)

end Specification

end FortranStyle
