import FortranStyle.Proofs.Reading.Relocation
import Mathlib.Data.List.DropRight
import Mathlib.Data.List.GetD

/-!
# Leading blanks

A line reads like what stands behind its leading gap, shifted to the right by the
length of the gap.  So a source reads like the source without leading gaps, with
every place shifted by the margin of its line.
-/

namespace FortranStyle

/-- The number of leading spaces and tabs of a line of some lines, which are
numbered from one. -/
def margin (lines : List (List Char)) (line : Nat) : Nat :=
  Lexeme.leading Text.isGap (lines.getD (line - 1) [])

theorem margin_succ {lines : List (List Char)} {index : Nat} (inside : index < lines.length) :
    margin lines (1 + index) = Lexeme.leading Text.isGap lines[index] := by
  rw [margin, Nat.add_sub_cancel_left, List.getD_eq_getElem _ _ inside]

theorem leading_dropWhile {p : Char → Bool} (cs : List Char) :
    Lexeme.leading p (cs.dropWhile p) = 0 := by
  have whole :=
    congrArg List.length (List.takeWhile_append_dropWhile (p := p) (l := cs.dropWhile p))
  rw [List.length_append, List.dropWhile_idempotent] at whole
  exact Nat.add_eq_right.mp whole

namespace Relocation

/-- Shift every line to the right. -/
def shift (width : Nat → Nat) : Relocation where
  place line column := (line, column + width line)
  quoted := id

variable {width : Nat → Nat}

theorem carries_shift {line column column' : Nat} (shifted : column + width line = column') :
    (shift width).Carries line column line column' := by
  intro offset
  rw [← shifted, Nat.add_right_comm]
  rfl

/-- Whatever a line leaves open is shifted with it. -/
theorem fits_shift (rest : Suspended) : (shift width).Fits rest where
  marker := carries_shift rfl
  literal _ _ := rfl

/-- Lines read like what stands behind their leading gaps, each line shifted by
its gap. -/
theorem part_shift {lines : List (List Char)} {line : Nat}
    (widths : ∀ index (inside : index < lines.length),
      width (line + index) = Lexeme.leading Text.isGap lines[index])
    (pending : Option Suspended) :
    (shift width).part
        (Tokenized.readLines line pending (lines.map (List.dropWhile Text.isGap))) =
      Tokenized.readLines line (pending.map (shift width).suspended) lines := by
  induction lines generalizing line pending with
  | nil => exact part_danglingPart fun rest _ => fits_shift rest
  | cons cs rest ih =>
    have first : 1 + width line = Line.firstColumn cs := by
      have here := widths 0 (Nat.succ_pos _)
      rw [Nat.add_zero, List.getElem_cons_zero] at here
      rw [here, Nat.add_comm, Line.firstColumn]
    have carries : (shift width).Carries line (Line.firstColumn (cs.dropWhile Text.isGap)) line
        (Line.firstColumn cs) := by
      rw [Line.firstColumn, leading_dropWhile]
      exact carries_shift first
    have body_eq : cs.dropWhile Text.isGap = (cs.dropWhile Text.isGap).dropWhile Text.isGap :=
      (List.dropWhile_idempotent ..).symm
    have read_eq := carries.reading_read_of_body body_eq rfl fun rest (_ : rest ∈ pending) =>
      fits_shift rest
    have silent_eq : Line.isSilent (cs.dropWhile Text.isGap) = Line.isSilent cs := by
      rw [Line.isSilent, Line.trim_dropWhile_isGap, Line.isSilent]
    have part_eq : (shift width).part
          (Tokenized.linePart line pending (cs.dropWhile Text.isGap)) =
        Tokenized.linePart line (pending.map (shift width).suspended) cs := by
      simp only [Tokenized.linePart, part, ← read_eq, reading, errors_ending, Option.isSome_map,
        silent_eq, apply_ite (List.map (shift width).quoted), List.map_cons, List.map_nil]
      rfl
    have widths' (index : Nat) (inside : index < rest.length) :
        width (line + 1 + index) = Lexeme.leading Text.isGap rest[index] := by
      rw [Nat.add_assoc, Nat.add_comm 1]
      exact widths (index + 1) (Nat.succ_lt_succ inside)
    have later := ih widths' (Line.read line pending (cs.dropWhile Text.isGap)).2.pending
    rw [List.map_cons, Tokenized.readLines, part_append, part_eq, later, Tokenized.readLines,
      ← read_eq, reading, pending_ending]

end Relocation

end FortranStyle
