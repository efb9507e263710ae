import FortranStyle.Statement.TypeSpec
import FortranStyle.Program.Declaration

/-!
# Type declaration statements

A type declaration statement is a type specification, attributes, and entities.
Dimension, length and initialisation may follow the name of each entity.
-/

namespace FortranStyle.Statement

/-- The attributes of a type declaration statement. -/
structure Attributes where
  /-- The words in small letters. -/
  words : List String
  /-- What the last INTENT says, in small letters and without spaces. -/
  intent : Option String
  /-- What the last DIMENSION says. -/
  dimension : List Token
deriving DecidableEq, Repr

namespace Attributes

/-- No attributes. -/
def empty : Attributes :=
  ⟨[], none, []⟩

/-- The text of an intent: small letters and no spaces. -/
def intentOf (tokens : List Token) : String :=
  String.ofList ((spelling tokens).toList.filter (· != ' '))

/-- Add one attribute.  An item that starts with no name is passed over. -/
def add (attributes : Attributes) : List Token → Attributes
  | [] => attributes
  | first :: rest =>
      if first.isName then
        let word := first.lower
        let bracketed := rest.head?.any (·.isOp "(")
        let inner := Bracket.inside rest
        { words := attributes.words ++ [word]
          intent :=
            if bracketed && word == "intent" then some (intentOf inner) else attributes.intent
          dimension := if bracketed && word == "dimension" then inner else attributes.dimension }
      else
        attributes

/-- Read the attributes between a type specification and the double colon. -/
def ofItems (items : List (List Token)) : Attributes :=
  items.foldl add empty

end Attributes

/-- A type declaration statement. -/
structure TypeDeclaration where
  spec : TypeSpec
  attributes : Attributes
  /-- The entities, as runs of tokens. -/
  entities : List (List Token)
deriving DecidableEq, Repr

/-- Read a type declaration statement.  Attributes are read only when a comma
follows the type specification and a double colon comes later. -/
def typeDeclaration (tokens : List Token) : TypeDeclaration :=
  let spec := typeSpec tokens
  let length := typeSpecLength tokens
  match Bracket.find? "::" tokens with
  | some colons =>
      let attributes :=
        if length < colons && spec.rest.head?.any (·.isOp ",") then
          Attributes.ofItems (Bracket.items ((tokens.take colons).drop (length + 1)))
        else
          .empty
      ⟨spec, attributes, Bracket.items (tokens.drop (colons + 1))⟩
  | none => ⟨spec, .empty, Bracket.items spec.rest⟩

/-- What follows the name of an entity: the tokens of its dimension, given those
of the DIMENSION attribute, and the tokens of its initialisation. -/
def entityTail (dimension : List Token) : List Token → List Token × List Token
  | [] => (dimension, [])
  | token :: rest =>
      if token.isOp "(" then
        entityTail (Bracket.inside (token :: rest)) (Bracket.beyond (token :: rest))
      else if token.isOp "[" then
        entityTail dimension (Bracket.beyond (token :: rest))
      else if token.isOp "*" then
        match rest with
        | [] => (dimension, [])
        | length :: more =>
            if length.isOp "(" then entityTail dimension (Bracket.beyond (length :: more))
            else entityTail dimension more
      else if token.isOp "=" || token.isOp "=>" then
        (dimension, rest)
      else
        entityTail dimension rest
termination_by tokens => tokens.length
decreasing_by
  · have := Bracket.length_beyond_cons_le token rest
    simp only [List.length_cons]
    omega
  · have := Bracket.length_beyond_cons_le token rest
    simp only [List.length_cons]
    omega
  · have := Bracket.length_beyond_cons_le length more
    simp only [List.length_cons]
    omega
  · simp only [List.length_cons]
    omega
  · simp

/-- The declaration of an entity, when its run of tokens starts with a name. -/
def TypeDeclaration.declare? (statement : TypeDeclaration) : List Token → Option Declaration
  | [] => none
  | name :: rest =>
      if name.isName then
        let (dimension, initializer) := entityTail statement.attributes.dimension rest
        some
          { token := name, typeName := statement.spec.name, kind := statement.spec.kind,
            attributes := statement.attributes.words, intent := statement.attributes.intent,
            dimension, initializer, isAutomatic := false }
      else
        none

/-- The declarations of all entities. -/
def TypeDeclaration.declarations (statement : TypeDeclaration) : List Declaration :=
  statement.entities.filterMap statement.declare?

end FortranStyle.Statement
