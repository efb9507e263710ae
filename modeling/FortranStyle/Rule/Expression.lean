import FortranStyle.Rule.Finding
import FortranStyle.Source
import FortranStyle.Statement.ControlList

/-!
# Rules on tokens

The form of array constructors, the order of subscripts in array sections, and
the kind of real literals.
-/

namespace FortranStyle.Rule

/-- An array constructor in the old brackets. -/
def checkConstructors (source : Source) : List Finding :=
  (source.tokenized.tokens.filter (·.isOp "(/")).map
    (Finding.at' · "Use [ ... ] rather than (/ ... /) for array constructors")

/-! ## Array sections -/

/-- A subscript that selects a range. -/
def isRange (subscript : List Token) : Bool :=
  (Bracket.find? ":" subscript).isSome || (Bracket.find? "::" subscript).isSome

/-- Whether a single subscript comes before a range.  Arrays are stored with the
first subscript running fastest, so such a section walks memory in strides. -/
def isStrided (subscripts : List (List Token)) : Bool :=
  (subscripts.dropWhile isRange).any isRange

/-- The names in a run of tokens that are followed by a bracket and are strided
sections. -/
def stridedNames : List Token → List Token
  | [] => []
  | token :: rest =>
      if token.kind == .identifier && rest.head?.any (·.isOp "(") &&
          isStrided (Bracket.items (Bracket.inside rest)) then
        token :: stridedNames rest
      else
        stridedNames rest

/-- A statement without its numeric label. -/
def withoutNumber : List Token → List Token
  | [] => []
  | first :: rest => if first.kind == .number then rest else first :: rest

/-- Whether the brackets of a statement may hold bounds instead of array
sections. -/
def holdsBounds (statement : List Token) : Bool :=
  statement.head?.any (·.isAmong Vocabulary.boundsWords) || Statement.isDeclaration statement

/-- An array section with a single subscript before a range. -/
def checkSections (source : Source) : List Finding :=
  source.tokenized.statements.flatMap fun statement =>
    let statement := withoutNumber statement
    if holdsBounds statement then []
    else
      (stridedNames statement).map fun token =>
        Finding.at' token
          (s!"Section of '{token.text}' has a scalar subscript before a ':' subscript; " ++
            "put the contiguous dimension first")

/-! ## Real literals -/

/-- Whether a FORMAT statement stands here, with or without its label. -/
def isFormat (statement : List Token) : Bool :=
  ((statement.take 2).find? (·.isName)).any (·.isWord "format")

/-- What is wrong with the kind of a numeric literal, if it is a real one. -/
def literalFault? (text : String) : Option String :=
  let body := text.toList.takeWhile (· != '_')
  let suffix := (text.toList.dropWhile (· != '_')).drop 1
  let letters := Text.lower (String.ofList body)
  let has (c : Char) := letters.toList.contains c
  if !(body.contains '.' || has 'e' || has 'd' || has 'q') then none
  else if has 'd' || has 'q' then
    some s!"Real literal {text} uses a D or Q exponent; use E with a _kind suffix"
  else if suffix.isEmpty then some s!"Real literal {text} has no _kind suffix"
  else none

/-- A real literal without a kind suffix, or with an exponent letter that stands
for a kind. -/
def checkLiterals (source : Source) : List Finding :=
  source.tokenized.statements.flatMap fun statement =>
    if isFormat statement then []
    else
      statement.filterMap fun token =>
        if token.kind == .number then
          (literalFault? token.text).map (Finding.at' token)
        else
          none

end FortranStyle.Rule
