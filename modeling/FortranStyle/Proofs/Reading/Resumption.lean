import FortranStyle.Proofs.Reading.Relocation
import FortranStyle.Proofs.Reading.StatementEnd

/-!
# Reading adjoining sources

The lines of two sources, put one below the other, read as the lines of the
first and then those of the second at their new places, as soon as the first
leaves nothing pending.  In particular a line that fails, with whatever open in
it, leaves no trace in the lines below.
-/

namespace FortranStyle

namespace Relocation

/-- Every line goes a number of lines down. -/
def down (count : Nat) : Relocation :=
  { place := fun line column => (line + count, column)
    quoted := fun line => line + count }

theorem carriesLines_down (count line lineCount : Nat) :
    (down count).CarriesLines line (line + count) lineCount := by
  constructor
  · intro index _ offset
    simp only [down, Prod.mk.injEq, and_true]
    omega
  · intro index _
    simp only [down]
    omega

end Relocation

namespace Tokenized

/-- Lines that leave nothing pending leave no statement open. -/
theorem leavesOpen_linesPart (line : Nat) (pending : Option Suspended)
    (lines : List (List Char)) :
    leavesOpen (Suspended.isOpen pending) (linesPart line pending lines).tokens =
      Suspended.isOpen (pendingBehind line pending lines) := by
  induction lines generalizing line pending with
  | nil => rfl
  | cons cs rest ih =>
    rw [linesPart, pendingBehind, Part.tokens_append, leavesOpen_append, ← ih]
    exact congrArg (leavesOpen · _) (Line.leavesOpen_read line pending cs)

/-! ## Adjoining sources -/

/-- The lines of two sources, one below the other, read as each of them by
itself, those of the second at their new places, when the end of the first is
not reported, and so also when its last line fails.  Lines quoted in messages
move as well. -/
theorem ofLines_append (first second : List String)
    (settled : (∀ error ∈ (ofLines first).errors, error.cause ≠ .nothingToContinue) ∨
      ∃ error ∈ (ofLines first).errors,
        error.line = first.length ∧ error.cause ≠ .nothingToContinue) :
    (ofLines (first ++ second)).tokens =
        (ofLines first).tokens ++
          (ofLines second).tokens.map (Relocation.down first.length).token ∧
      (ofLines (first ++ second)).statements =
        (ofLines first).statements ++
          (ofLines second).statements.map (List.map (Relocation.down first.length).token) ∧
      (ofLines (first ++ second)).continuedLines =
        (ofLines first).continuedLines ++
          (ofLines second).continuedLines.map (· + first.length) ∧
      (ofLines (first ++ second)).errors =
        (ofLines first).errors ++
          (ofLines second).errors.map (Relocation.down first.length).error := by
  let texts := List.map fun line : String => Text.dropEndWhile Text.isLineEnd line.toList
  let moved := Relocation.down first.length
  have length_eq : (texts first).length = first.length := List.length_map _
  have nothingPending : pendingBehind 1 none (texts first) = none := by
    rcases settled with unreported | ⟨error, member, last, raised⟩
    · exact pendingBehind_eq_none_iff.mpr unreported
    · exact pendingBehind_of_failed member (last.trans length_eq.symm) raised
  have first_eq : readLines 1 none (texts first) = linesPart 1 none (texts first) := by
    rw [readLines_eq, nothingPending]
    exact Part.append_empty _
  have second_eq : moved.part (readLines 1 none (texts second)) =
      readLines (1 + (texts first).length) none (texts second) := by
    rw [length_eq]
    exact (Relocation.carriesLines_down first.length 1 _).part_readLines (by simp)
  have whole : readLines 1 none (texts (first ++ second)) =
      readLines 1 none (texts first) ++ moved.part (readLines 1 none (texts second)) := by
    have texts_append : texts (first ++ second) = texts first ++ texts second :=
      List.map_append
    rw [texts_append, readLines_append, nothingPending, first_eq, second_eq]
  have closed : leavesOpen false (ofLines first).tokens = false := by
    change leavesOpen (Suspended.isOpen none) (readLines 1 none (texts first)).tokens = false
    rw [first_eq, leavesOpen_linesPart, nothingPending]
    rfl
  have tokens_eq : (ofLines (first ++ second)).tokens =
      (ofLines first).tokens ++ (ofLines second).tokens.map moved.token :=
    congrArg Part.tokens whole
  refine ⟨tokens_eq, ?_, congrArg Part.continuedLines whole, congrArg Part.errors whole⟩
  unfold statements
  rw [tokens_eq, statementsOf_append closed, statementsOf_map (f := moved.token) fun _ => rfl]

/-- The last line of the first source fails inside a literal that is carried
over from an open array constructor; the second source fails in its own second
line. -/
theorem ofLines_append_open_literal :
    (∃ error ∈ (ofLines ["x = (/ 1, 'ab&", "cd"]).errors,
        error.line = 2 ∧ error.cause ≠ .nothingToContinue) ∧
      (ofLines (["x = (/ 1, 'ab&", "cd"] ++ ["y = 2 /)", "'z"])).errors =
        [⟨.unterminated '\'' 1, 2, 1⟩, ⟨.unterminated '\'' 4, 4, 1⟩] := by
  have failed : (ofLines ["x = (/ 1, 'ab&", "cd"]).errors = [⟨.unterminated '\'' 1, 2, 1⟩] := by
    decide +kernel
  have second : (ofLines ["y = 2 /)", "'z"]).errors = [⟨.unterminated '\'' 2, 2, 1⟩] := by
    decide +kernel
  have settled : ∃ error ∈ (ofLines ["x = (/ 1, 'ab&", "cd"]).errors,
      error.line = 2 ∧ error.cause ≠ .nothingToContinue := by
    rw [failed]
    exact ⟨_, List.mem_singleton_self _, rfl, by decide⟩
  have appended := (ofLines_append ["x = (/ 1, 'ab&", "cd"] ["y = 2 /)", "'z"]
    (.inr settled)).2.2.2
  rw [failed, second] at appended
  exact ⟨settled, appended⟩

end Tokenized

end FortranStyle
