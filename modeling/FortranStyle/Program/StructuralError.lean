import FortranStyle.Block
import FortranStyle.Text.Case

/-!
# Blocks that do not pair up

Errors in the nesting of program units, procedures and constructs.  The text of
the message follows from the cause alone.
-/

namespace FortranStyle

/-- What is wrong with the nesting of blocks. -/
inductive StructuralCause
  /-- An END statement closes nothing; a bare END names no kind. -/
  | unmatchedEnd (kind : Option BlockKind)
  /-- An outer block ends before this one. -/
  | notClosedBefore (kind : BlockKind) (openedOn line : Nat)
  /-- The source ends before this block. -/
  | neverClosed (kind : BlockKind) (name : String) (openedOn : Nat)
  /-- The name behind END is not that of the block. -/
  | endNameMismatch (kind : BlockKind) (endName name : String)
  /-- A program unit starts inside another scope. -/
  | nestedUnit (kind : UnitKind) (name : String) (outer : BlockKind) (outerName : String)
deriving DecidableEq, Repr

namespace StructuralCause

/-- The text shown for a cause. -/
def message : StructuralCause → String
  | unmatchedEnd none => "END has no matching opening statement"
  | unmatchedEnd (some kind) =>
      s!"END {Text.upper kind.word} has no matching opening statement"
  | notClosedBefore kind openedOn line =>
      s!"{Text.upper kind.word} opened on line {openedOn} is not closed before line {line}"
  | neverClosed kind name openedOn =>
      s!"{Text.upper kind.word} {name} opened on line {openedOn} is never closed; " ++
        "assuming it ends at the end of the file"
  | endNameMismatch kind endName name =>
      s!"END {Text.upper kind.word} {endName} does not match {Text.upper kind.word} {name}"
  | nestedUnit kind name outer outerName =>
      s!"{Text.upper kind.word} {name} opened inside {Text.upper outer.word} {outerName}"

/-- The kind of block that a cause is about; a bare END has none. -/
def block? : StructuralCause → Option BlockKind
  | unmatchedEnd kind => kind
  | notClosedBefore kind .. => some kind
  | neverClosed kind .. => some kind
  | endNameMismatch kind .. => some kind
  | nestedUnit kind .. => some (.unit kind)

end StructuralCause

/-- An error in the nesting of blocks and its place. -/
structure StructuralError where
  cause : StructuralCause
  line : Nat
  column : Nat
deriving DecidableEq, Repr

end FortranStyle
