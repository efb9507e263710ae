import FortranStyle.Statement.Assignment
import FortranStyle.Statement.Boundary
import FortranStyle.Statement.ControlList
import FortranStyle.Vocabulary

/-!
# Actions of executable statements

What an executable statement does as far as the checker looks: it assigns to a
variable, or it has an effect that is visible outside its procedure.  A guard in
front, as in a one-line IF, is passed over.
-/

namespace FortranStyle.Statement

/-- What an executable statement does. -/
inductive Action
  /-- It assigns to the variable with this base name. -/
  | assignment (target : Token)
  /-- It reads, writes or stops: the words of the statement, its first token,
  and the unit of a READ or WRITE. -/
  | effect (words : String) (token : Token) (unit : Option String)
deriving DecidableEq, Repr

/-- Whether the condition in front belongs to a guarded statement. -/
def isGuardWord (token : Token) : Bool :=
  token.isAmong ["if", "where", "forall"]

/-- The action of an executable statement, if it has one.  Behind a guard the
action is that of the statement it guards; THEN alone guards a block. -/
def action? : List Token → Option Action
  | [] => none
  | first :: rest =>
      match assignmentTarget? (first :: rest) with
      | some target => some (.assignment target)
      | none =>
          if isGuardWord first && startsBracket rest then
            match rest with
            | [] => none
            | bracket :: condition => action? (Bracket.beyond (bracket :: condition))
          else if first.isWord "error" then
            if rest.head?.any (·.isWord "stop") then some (.effect "error stop" first none)
            else none
          else if first.isAmong Vocabulary.effectWords then
            let unit :=
              if first.isAmong ["read", "write"] then unit? (first :: rest) else none
            some (.effect first.lower first unit)
          else
            none
termination_by tokens => tokens.length
decreasing_by
  have := Bracket.length_beyond_cons_le bracket condition
  simp only [List.length_cons]
  omega

end FortranStyle.Statement
