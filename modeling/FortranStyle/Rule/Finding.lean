import FortranStyle.Rule
import FortranStyle.Text.Order
import FortranStyle.Token

/-!
# Findings

What a rule says about a place of a file, before its severity is known.
-/

namespace FortranStyle

/-- A message about a place of a file. -/
structure Finding where
  line : Nat
  column : Nat
  message : String
deriving DecidableEq, Repr

namespace Finding

/-- A message about the place of a token. -/
def at' (token : Token) (message : String) : Finding :=
  ⟨token.line, token.column, message⟩

/-- The diagnostic of a finding, with the default severity of its rule. -/
def diagnostic (finding : Finding) (rule : Rule) (file : String) : Diagnostic :=
  rule.diagnostic file finding.line finding.column finding.message

/-- The first names in order and the number of the others.  A negative limit is
a number of names to leave out. -/
def nameList (names : List String) (limit : Int) : String :=
  let names := Text.sorted names
  let count : Int := names.length
  let shown := if limit < 0 then (count + limit).toNat else limit.toNat
  ", ".intercalate (names.take shown) ++
    if count > limit then s!" and {count - limit} more" else ""

end Finding

end FortranStyle
