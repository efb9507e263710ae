import FortranStyle.Statement.Bracket

/-!
# Control lists and name lists

The unit in the control list of a READ or WRITE statement, and the names that
ONLY, PUBLIC and attribute statements list.
-/

namespace FortranStyle.Statement

/-- The expression of one item of a control list, without `UNIT=`. -/
def unitExpression : List Token → List Token
  | keyword :: sign :: value :: more =>
      if keyword.isWord "unit" && sign.isOp "=" then value :: more
      else keyword :: sign :: value :: more
  | item => item

/-- The unit of a READ or WRITE statement, in small letters: a star, or the
first item of the control list. -/
def unit? : List Token → Option String
  | _ :: second :: rest =>
      if second.isOp "*" then some "*"
      else if second.isOp "(" then
        match Bracket.items (Bracket.inside (second :: rest)) with
        | (token :: more) :: _ => some (spelling (unitExpression (token :: more)))
        | _ => none
      else none
  | _ => none

/-- The local name of an item, which `=>` may give to a name from elsewhere. -/
def localName (item : List Token) : String :=
  spelling (item.take ((Bracket.find? "=>" item).getD item.length))

/-- The names that an attribute statement lists: the first token of each item
behind the double colon, or behind the first token when there is none. -/
def listedNames (tokens : List Token) : List Token :=
  (Bracket.items (tokens.drop ((Bracket.find? "::" tokens).getD 0 + 1))).filterMap fun
    | token :: _ => if token.isName then some token else none
    | [] => none

/-- A statement without its numeric label and without the name of its
construct. -/
def unlabelled (tokens : List Token) : List Token :=
  let tokens := match tokens with
    | label :: rest => if label.kind == TokenKind.number then rest else label :: rest
    | [] => []
  match tokens with
  | name :: colon :: first :: rest =>
      if name.isName && colon.isOp ":" then first :: rest else name :: colon :: first :: rest
  | tokens => tokens

end FortranStyle.Statement
