import FortranStyle.Statement.Bracket

/-!
# Assignments

An assignment starts with a name, which may be spelled like any keyword; then
come subscripts and components, and then the sign of assignment or of pointer
assignment.
-/

namespace FortranStyle.Statement

/-- Whether subscripts and components lead up to a sign of assignment. -/
def leadsToAssignment : List Token → Bool
  | [] => false
  | token :: rest =>
      if token.isOp "(" then
        leadsToAssignment (Bracket.beyond (token :: rest))
      else if token.isOp "%" then
        match rest with
        | component :: rest => component.isName && leadsToAssignment rest
        | [] => false
      else
        token.isOp "=" || token.isOp "=>"
termination_by tokens => tokens.length
decreasing_by
  · have := Bracket.length_beyond_cons_le token rest
    simp only [List.length_cons]
    omega
  · simp only [List.length_cons]
    omega

/-- The base name that a statement assigns to, if it is an assignment. -/
def assignmentTarget? : List Token → Option Token
  | [] => none
  | token :: rest => if token.isName && leadsToAssignment rest then some token else none

end FortranStyle.Statement
