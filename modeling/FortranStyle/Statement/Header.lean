import FortranStyle.Block
import FortranStyle.Statement.TypeSpec

/-!
# Headers of procedures

The first statement of a function or subroutine, with any marks such as PURE and
a type specification in front.
-/

namespace FortranStyle.Statement

/-- What the first statement of a procedure says. -/
structure Header where
  kind : ProcedureKind
  name : Token
  /-- The marks in front, in small letters. -/
  marks : List String
  /-- The names of the dummy arguments. -/
  arguments : List Token
  /-- The name in the RESULT clause, in small letters. -/
  result : Option String
deriving DecidableEq, Repr

/-- The kind of procedure that a word introduces. -/
def procedureKind? (token : Token) : Option ProcedureKind :=
  if token.isWord "function" then some .function
  else if token.isWord "subroutine" then some .subroutine
  else none

/-- The marks in front of FUNCTION or SUBROUTINE, and the tokens from that word
on.  A type specification may stand anywhere among the marks. -/
def headerMarks? : List Token → Option (List String × List Token)
  | [] => none
  | token :: rest =>
      if (procedureKind? token).isSome then
        some ([], token :: rest)
      else if token.isAmong Vocabulary.procedureMarks then
        (headerMarks? rest).map fun (marks, tail) => (token.lower :: marks, tail)
      else if token.isAmong Vocabulary.intrinsicTypes ||
          (isDerivedTypeWord token && rest.head?.any (·.isOp "(")) then
        headerMarks? (typeSpec (token :: rest)).rest
      else
        none
termination_by tokens => tokens.length
decreasing_by
  · simp only [List.length_cons]
    omega
  · have := length_rest_typeSpec_cons_le token rest
    simp only [List.length_cons]
    omega

/-- The name in the last RESULT clause. -/
def resultName? (found : Option String) : List Token → Option String
  | word :: bracket :: name :: rest =>
      if word.isWord "result" && bracket.isOp "(" then
        resultName? (some name.lower) (Bracket.beyond (bracket :: name :: rest))
      else
        resultName? found (bracket :: name :: rest)
  | _ => found
termination_by tokens => tokens.length
decreasing_by
  · have := Bracket.length_beyond_cons_le bracket (name :: rest)
    simp only [List.length_cons] at this ⊢
    omega
  · simp

/-- The names that stand alone between the commas of an argument list. -/
def argumentNames (tokens : List Token) : List Token :=
  (Bracket.items tokens).filterMap fun
    | [token] => if token.isName then some token else none
    | _ => none

/-- Read the header of a procedure. -/
def header? (tokens : List Token) : Option Header :=
  match headerMarks? tokens with
  | some (marks, word :: name :: rest) =>
      if name.isName then
        (procedureKind? word).map fun kind =>
          if rest.head?.any (·.isOp "(") then
            ⟨kind, name, marks, argumentNames (Bracket.inside rest),
              resultName? none (Bracket.beyond rest)⟩
          else
            ⟨kind, name, marks, [], resultName? none rest⟩
      else
        none
  | _ => none

end FortranStyle.Statement
