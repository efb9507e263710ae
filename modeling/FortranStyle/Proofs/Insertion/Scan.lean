import FortranStyle.Proofs.Insertion.Reading
import FortranStyle.Proofs.Nesting.History
import FortranStyle.Proofs.Transcription.Moving

/-!
# The outline behind an insertion

The statements of a source with silent lines inserted are those of the source at
new line numbers.  A scan asks for line numbers only to write them down, so it
writes down the new ones, and the lines that are inserted get no depth.

The number of lines counts in one place alone: it is the line at which blocks end
that are never closed.  Neither the errors nor the depths depend on it.
-/

namespace FortranStyle

/-! ## Errors at new numbers -/

/-- Give the lines that a cause speaks of new numbers. -/
def StructuralCause.renumber (number : Nat → Nat) : StructuralCause → StructuralCause
  | notClosedBefore kind openedOn line => notClosedBefore kind (number openedOn) (number line)
  | neverClosed kind name openedOn => neverClosed kind name (number openedOn)
  | other => other

/-- Give the lines of an error new numbers. -/
def StructuralError.renumber (number : Nat → Nat) (error : StructuralError) : StructuralError :=
  ⟨error.cause.renumber number, number error.line, error.column⟩

namespace Transcription

/-- The copy in which every line has a new number. -/
def renumber (number : Nat → Nat) (zero : number 0 = 0) : Transcription :=
  moving number (fun _ column => column) zero

variable {number : Nat → Nat} {zero : number 0 = 0}

theorem token_renumber : (renumber number zero).token = (Relocation.renumber number).token := by
  funext token
  rw [Transcription.token, renumber, text_moving]
  rfl

theorem structuralError_renumber (error : StructuralError) :
    (renumber number zero).structuralError error = error.renumber number := by
  obtain ⟨cause, line, column⟩ := error
  cases cause <;>
    simp [structuralError, Transcription.cause, renumber, StructuralError.renumber,
      StructuralCause.renumber]

/-- Statements at new line numbers lead to what the statements lead to, at the new
numbers. -/
theorem run_renumber (number : Nat → Nat) (zero : number 0 = 0) (statements : List (List Token)) :
    ScanState.initial.run (statements.map (List.map (Relocation.renumber number).token)) =
      (renumber number zero).state (ScanState.initial.run statements) := by
  have ran := (renumber number zero).run_state .initial statements
  rwa [initial_state, token_renumber] at ran

end Transcription

/-! ## The line at which a source ends -/

namespace ScanState

@[simp]
theorem depths_closeTop (state : ScanState) (endLine : Nat) :
    (state.closeTop endLine).depths = state.depths := by
  have addUnits_eq (state : ScanState) (units : List ProgramUnit) :
      (state.addUnits units).depths = state.depths := by
    unfold addUnits
    split <;> rfl
  have addProcedure_eq (state : ScanState) (procedure : Procedure) :
      (state.addProcedure procedure).depths = state.depths := by
    unfold addProcedure
    split <;> rfl
  unfold closeTop
  split <;> simp [addUnits_eq, addProcedure_eq]

/-- Closing what is left open records no depth. -/
theorem depths_closeAll (state : ScanState) (lastLine count : Nat) :
    (state.closeAll lastLine count).depths = state.depths := by
  induction count generalizing state with
  | zero => rfl
  | succ count ih =>
    unfold closeAll
    split
    · rfl
    · rw [ih, depths_closeTop]
      rfl

/-- The errors about what is left open do not depend on where the source ends. -/
theorem errors_closeAll_congr (state : ScanState) (lastLine lastLine' : Nat) :
    (state.closeAll lastLine state.depth).errors =
      (state.closeAll lastLine' state.depth).errors :=
  (follows_closeAll state lastLine).errors.trans (follows_closeAll state lastLine').errors.symm

end ScanState

namespace Outline

/-- What is written down about statements: the depths of their lines and the
errors, without the line at which the source ends. -/
theorem ofStatements_eq (lineCount lastLine : Nat) (statements : List (List Token)) :
    let state := ScanState.initial.run statements
    (ofStatements lineCount statements).errors = (state.closeAll lastLine state.depth).errors ∧
      (ofStatements lineCount statements).lineDepths =
        (List.range' 1 lineCount).map fun line => state.depths.reverse.lookup line := by
  intro state
  refine ⟨ScanState.errors_closeAll_congr state _ _, ?_⟩
  rw [List.range'_eq_map_range, List.map_map]
  simp only [ofStatements, ScanState.lineDepths, ScanState.depths_closeAll, Function.comp_def,
    Nat.add_comm 1]
  rfl

/-- A table is looked up at a new number like the old one at the old number. -/
theorem lookup_renumbered {number : Nat → Nat} (injective : Function.Injective number)
    (table : List (Nat × Nat)) (line : Nat) :
    (table.map (Prod.map number id)).lookup (number line) = table.lookup line := by
  induction table with
  | nil => rfl
  | cons entry rest ih =>
    have same : (number line == number entry.1) = (line == entry.1) := by
      rw [Bool.eq_iff_iff, beq_iff_eq, beq_iff_eq, injective.eq_iff]
    rw [List.map_cons, List.lookup_cons, List.lookup_cons, ih, Prod.map_fst, same]
    rfl

theorem lookup_renumbered_eq_none {number : Nat → Nat} (table : List (Nat × Nat)) {line : Nat}
    (absent : ∀ old, number old ≠ line) : (table.map (Prod.map number id)).lookup line = none := by
  rw [List.lookup_eq_none_iff, List.forall_mem_map]
  intro entry _
  exact bne_iff_ne.mpr fun same => absent entry.1 same.symm

/-- A source with silent lines inserted has the errors of the source at their new
numbers, and its lines have the depths that they had. -/
theorem ofStatements_renumber (blocks : Nat → List String) (source : List String)
    (statements : List (List Token)) :
    let whole := ofStatements (insertBlocks blocks 0 source).length
      (statements.map (List.map (Relocation.renumber (renumber blocks)).token))
    let old := ofStatements source.length statements
    whole.errors = old.errors.map (StructuralError.renumber (renumber blocks)) ∧
      whole.lineDepths =
        insertBlocks (fun n => (blocks n).map fun _ => none) 0 old.lineDepths := by
  intro whole old
  let copy := Transcription.renumber (renumber blocks) rfl
  have ran := Transcription.run_renumber (renumber blocks) rfl statements
  have injective := (renumber_strictMono blocks).injective
  obtain ⟨old_errors, old_depths⟩ := ofStatements_eq source.length source.length statements
  obtain ⟨whole_errors, whole_depths⟩ := ofStatements_eq (insertBlocks blocks 0 source).length
    (renumber blocks source.length)
    (statements.map (List.map (Relocation.renumber (renumber blocks)).token))
  rw [ran] at whole_errors whole_depths
  constructor
  · have closed := copy.closeAll_state (ScanState.initial.run statements) source.length
      (ScanState.initial.run statements).depth
    rw [whole_errors, old_errors, Transcription.depth_state]
    exact (congrArg ScanState.errors closed).trans
      (List.map_congr_left fun error _ => Transcription.structuralError_renumber error)
  · have reversed : (copy.state (ScanState.initial.run statements)).depths.reverse =
        (ScanState.initial.run statements).depths.reverse.map (Prod.map (renumber blocks) id) :=
      List.map_reverse.symm
    rw [whole_depths, old_depths, reversed]
    exact map_range'_insertBlocks (lookup_renumbered injective _)
      (fun _ => lookup_renumbered_eq_none _) 0 source

end Outline

/-- Silent lines can be inserted anywhere.  The statements, the continued lines,
the errors and the structural errors are those of the source at the new line
numbers; the lines of the source keep their depths, and the inserted lines get
none. -/
theorem silent_insertion {blocks : Nat → List String}
    (silent : ∀ n, ∀ line ∈ blocks n, Line.isSilent (Tokenized.lineText line) = true)
    (source : List String) :
    let number := renumber blocks
    let old := Tokenized.ofLines source
    let whole := Tokenized.ofLines (insertBlocks blocks 0 source)
    whole.statements = old.statements.map (List.map (Relocation.renumber number).token) ∧
      whole.continuedLines = old.continuedLines.map number ∧
      whole.errors = old.errors.map (Relocation.renumber number).error ∧
      (Outline.ofTokenized whole).lineDepths =
        insertBlocks (fun n => (blocks n).map fun _ => none) 0
          (Outline.ofTokenized old).lineDepths ∧
      (Outline.ofTokenized whole).errors =
        (Outline.ofTokenized old).errors.map (StructuralError.renumber number) := by
  intro number old whole
  obtain ⟨statements_eq, continuedLines_eq, errors_eq⟩ :=
    Tokenized.ofLines_insertBlocks silent source
  obtain ⟨structuralErrors_eq, lineDepths_eq⟩ :=
    Outline.ofStatements_renumber blocks source old.statements
  have counted (lines : List String) : (Tokenized.ofLines lines).lines.length = lines.length := by
    simp [Tokenized.ofLines]
  rw [← statements_eq, ← counted source, ← counted (insertBlocks blocks 0 source)]
    at structuralErrors_eq lineDepths_eq
  exact ⟨statements_eq, continuedLines_eq, errors_eq, lineDepths_eq, structuralErrors_eq⟩

/-- A comment and a blank line come between the lines of a literal: END, which
closes nothing, is reported two lines further down. -/
theorem silent_insertion_literal :
    let source := ["s = 'a&", "&b'", "end"]
    let blocks := fun n => if n = 1 then ["! note", " "] else []
    (∀ n, ∀ line ∈ blocks n, Line.isSilent (Tokenized.lineText line) = true) ∧
      (Outline.ofTokenized (.ofLines (insertBlocks blocks 0 source))).lineDepths =
        [some 0, none, none, none, some 0] ∧
      (Outline.ofTokenized (.ofLines (insertBlocks blocks 0 source))).errors =
        [⟨.unmatchedEnd none, 5, 1⟩] := by
  intro source blocks
  have silent : ∀ n, ∀ line ∈ blocks n, Line.isSilent (Tokenized.lineText line) = true := by
    intro n line member
    by_cases second : n = 1
    · simp only [blocks, second, if_true] at member
      revert line
      decide +kernel
    · simp [blocks, second] at member
  obtain ⟨-, -, -, lineDepths_eq, errors_eq⟩ := silent_insertion silent source
  refine ⟨silent, lineDepths_eq.trans ?_, errors_eq.trans ?_⟩
  · decide +kernel
  · decide +kernel

end FortranStyle
