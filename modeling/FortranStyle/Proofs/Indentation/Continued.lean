import FortranStyle.Proofs.Indentation.Reindent
import FortranStyle.Proofs.Insertion.Scan
import FortranStyle.Proofs.Reading.Start
import FortranStyle.Proofs.Roster.Deed
import FortranStyle.Proofs.Sorting.Setting

/-!
# Depths of continued lines

The depth of a line is that of the first statement that starts on it.  A statement
that is no more than a label has none.  So a line that continues a statement has no
depth, and its indentation is free, as long as the statement has begun above the
line and none starts behind a semicolon on it.  A line that has a depth and
continues nothing has the first token of a statement in front.
-/

namespace FortranStyle

namespace ScanState

variable (state : ScanState) (tokens : List Token)

/-! ## What a statement records -/

theorem depths_recordExecutable : (state.recordExecutable tokens).depths = state.depths := by
  unfold recordExecutable
  dsimp only
  split <;> rfl

theorem depths_recordContains (token : Token) :
    (state.recordContains token).depths = state.depths := by
  unfold recordContains
  split <;> rfl

theorem depths_recordMember : (state.recordMember tokens).depths = state.depths := by
  unfold recordMember
  dsimp only
  split
  · split <;> rfl
  · rfl

theorem depths_recordEnumerators : (state.recordEnumerators tokens).depths = state.depths := by
  unfold recordEnumerators
  split <;> rfl

/-- A statement that opens and closes nothing records no depth beside its own. -/
theorem depths_recordPlain : (state.recordPlain tokens).depths = state.depths := by
  have recordUse_eq : (state.recordUse tokens).depths = state.depths := by
    unfold recordUse
    split
    · rfl
    · split <;> rfl
  have recordImplicit_eq : (state.recordImplicit tokens).depths = state.depths := by
    unfold recordImplicit
    split <;> rfl
  have recordIntent_eq : (state.recordIntent tokens).depths = state.depths := by
    unfold recordIntent
    dsimp only
    split <;> rfl
  unfold recordPlain
  split
  · rfl
  · repeat' split
    all_goals first | assumption | rfl | exact depths_recordExecutable _ _

variable {state tokens} {after : ScanState}

theorem depths_openUnit? (opened : state.openUnit? tokens = some after) :
    after.depths = state.depths := by
  unfold openUnit? at opened
  split at opened
  · contradiction
  · obtain ⟨⟨kind, name⟩, -, rfl⟩ := Option.map_eq_some_iff.mp opened
    dsimp only
    split <;> rfl

theorem depths_openProcedure? (opened : state.openProcedure? tokens = some after) :
    after.depths = state.depths := by
  unfold openProcedure? at opened
  split at opened
  · contradiction
  · obtain ⟨header, -, rfl⟩ := Option.map_eq_some_iff.mp opened
    dsimp only
    split <;> rfl

theorem depths_openInterface? (opened : state.openInterface? tokens = some after) :
    after.depths = state.depths := by
  obtain ⟨block, -, rfl⟩ := Option.map_eq_some_iff.mp opened
  rfl

theorem depths_openType? (opened : state.openType? tokens = some after) :
    after.depths = state.depths := by
  unfold openType? at opened
  split at opened
  · contradiction
  · obtain ⟨derivedType, -, rfl⟩ := Option.map_eq_some_iff.mp opened
    rfl

theorem depths_openConstruct? (opened : state.openConstruct? tokens = some after) :
    after.depths = state.depths := by
  unfold openConstruct? at opened
  split at opened
  · contradiction
  · obtain ⟨kind, -, rfl⟩ := Option.map_eq_some_iff.mp opened
    dsimp only
    split
    · rfl
    · exact depths_recordExecutable _ _

theorem depths_close (closer : Statement.Closer) (first last : Token) :
    (state.close closer first last).depths = state.depths :=
  close_of (P := fun after => after.depths = state.depths)
    (fun after line same => (depths_closeTop after line).trans same)
    (fun _ _ _ same => same) rfl closer first last

/-- A statement records one depth, for the line of its first token. -/
theorem exists_depths_step {label : Token} {others : List Token}
    (written : Statement.unlabelled (label :: others) ≠ []) :
    ∃ depth, (state.step (label :: others)).depths = (label.line, depth) :: state.depths := by
  obtain ⟨first, rest, unlabelled_eq⟩ := List.exists_cons_of_ne_nil written
  have deed := deed_step state label others unlabelled_eq
  generalize state.mark? (label :: others) = mark, state.step (label :: others) = after at deed
  cases deed with
  | executes => exact ⟨_, depths_recordExecutable _ _⟩
  | closes _ _ depth => exact ⟨depth, congrArg (_ :: ·) (depths_close _ _ _)⟩
  | divides => exact ⟨_, rfl⟩
  | contains => exact ⟨_, depths_recordContains _ _⟩
  | component => exact ⟨_, rfl⟩
  | enumerates => exact ⟨_, depths_recordEnumerators _ _⟩
  | member => exact ⟨_, depths_recordMember _ _⟩
  | opensUnit _ _ opened => exact ⟨_, depths_openUnit? opened⟩
  | opensProcedure _ _ opened => exact ⟨_, depths_openProcedure? opened⟩
  | opensInterface _ _ opened => exact ⟨_, depths_openInterface? opened⟩
  | opensType _ _ opened => exact ⟨_, depths_openType? opened⟩
  | opensConstruct _ _ opened => exact ⟨_, depths_openConstruct? opened⟩
  | records => exact ⟨_, depths_recordPlain _ _⟩

/-- The lines with a depth are those on which a statement starts. -/
theorem exists_mem_depths_run_iff (state : ScanState) (statements : List (List Token))
    (line : Nat) :
    (∃ entry ∈ (state.run statements).depths, entry.1 = line) ↔
      (∃ entry ∈ state.depths, entry.1 = line) ∨
        ∃ statement ∈ statements, Statement.unlabelled statement ≠ [] ∧
          ∃ first, statement.head? = some first ∧ first.line = line := by
  induction statements generalizing state with
  | nil => simp [run]
  | cons statement rest ih =>
    have stepped : state.run (statement :: rest) = (state.step statement).run rest := rfl
    rw [stepped, ih, List.exists_mem_cons_iff, ← or_assoc]
    refine or_congr_left ?_
    by_cases bare : Statement.unlabelled statement = []
    · simp [step_of_unlabelled_eq_nil bare, bare]
    · cases statement with
      | nil => exact absurd rfl bare
      | cons label others =>
        obtain ⟨depth, depths_eq⟩ : ∃ depth, (state.step (label :: others)).depths = _ :=
          exists_depths_step bare
        rw [depths_eq, List.exists_mem_cons_iff, or_comm]
        simp [bare]

end ScanState

namespace Indentation

open Tokenized (ofLines)

variable {source : List String}

/-! ## Lines with a depth -/

theorem getElem?_depths (source : List String) (n : Nat) :
    (depths source)[n]? = if n < source.length then
      some ((ScanState.initial.run (ofLines source).statements).depths.reverse.lookup (n + 1))
    else none := by
  have lineCount : (ofLines source).lines.length = source.length := by simp [Tokenized.ofLines]
  rw [depths, Outline.ofTokenized,
    (Outline.ofStatements_eq (ofLines source).lines.length 0 (ofLines source).statements).2,
    List.getElem?_map, lineCount]
  split
  · rename_i inside
    rw [List.getElem?_range' inside, Option.map_some, Nat.one_mul, Nat.add_comm]
  · rename_i outside
    rw [List.getElem?_eq_none (by simpa using outside), Option.map_none]

/-- A line has a depth just if a statement starts there that is more than a label. -/
theorem exists_depth_iff (source : List String) (n : Nat) :
    (∃ depth, (depths source)[n]? = some (some depth)) ↔
      n < source.length ∧ ∃ statement ∈ (ofLines source).statements,
        Statement.unlabelled statement ≠ [] ∧
          ∃ first, statement.head? = some first ∧ first.line = n + 1 := by
  have recorded := ScanState.initial.exists_mem_depths_run_iff (ofLines source).statements (n + 1)
  rw [getElem?_depths]
  by_cases inside : n < source.length
  · have nothing : ¬∃ entry ∈ ScanState.initial.depths, entry.1 = n + 1 := by
      simp [ScanState.initial]
    rw [or_iff_right nothing] at recorded
    simp only [inside, if_true, true_and, Option.some.injEq, ← recorded]
    rw [← Option.isSome_iff_exists, List.lookup_isSome_iff]
    simp only [List.mem_reverse, beq_iff_eq, eq_comm (a := n + 1)]
  · simp [inside]

/-- What the rule of indentation reports, it reports of a line with a depth. -/
theorem exists_depth_of_mem_checkIndent {path : String} {finding : Finding}
    (member : finding ∈ Rule.checkIndent (.ofLines path source)) :
    ∃ n depth : Nat, finding.line = n + 1 ∧ (depths source)[n]? = some (some depth) := by
  simp only [Rule.checkIndent, List.mem_filterMap, List.mem_mapIdx, id_eq] at member
  obtain ⟨entry, ⟨n, inside, rfl⟩, checked⟩ := member
  have listed : n < (depths source).length := by
    rw [List.length_zip] at inside
    exact lt_of_lt_of_le inside (min_le_left _ _)
  split at checked
  · rename_i depth indent depth_eq indent_eq
    rw [List.getElem_zip] at depth_eq
    split at checked
    · refine ⟨n, depth, by rw [← Option.some.inj checked], ?_⟩
      rw [List.getElem?_eq_getElem listed]
      exact congrArg some depth_eq
    · contradiction
  · contradiction

theorem exists_depth_of_mem_checkLines {path : String} {settings : Settings}
    {diagnostic : Diagnostic} (member : diagnostic ∈ checkLines path source settings)
    (named : diagnostic.rule = Rule.indentStep.name) :
    ∃ n depth : Nat, diagnostic.line = n + 1 ∧ (depths source)[n]? = some (some depth) := by
  obtain ⟨finding, found, line_eq, -⟩ :=
    Source.exists_finding_of_mem_judge _ (Source.mem_judge_of_rule_eq _ member named)
  obtain ⟨n, depth, finding_eq, deep⟩ := exists_depth_of_mem_checkIndent found
  exact ⟨n, depth, by rw [line_eq, finding_eq, Int.natCast_add_one], deep⟩

/-! ## Continued lines -/

/-- A line has a depth just if a statement starts there that is more than a label.
A continued line in front of which its statement has begun, and on which no
semicolon ends a statement, has none, so the rule of indentation leaves it alone.
The first code token of a line with a depth that continues nothing, or nothing that
has begun, is the first token of a statement. -/
theorem depths_of_continued_lines (source : List String) :
    (∀ n, (∃ depth, (depths source)[n]? = some (some depth)) ↔
      n < source.length ∧ ∃ statement ∈ (ofLines source).statements,
        Statement.unlabelled statement ≠ [] ∧
          ∃ first, statement.head? = some first ∧ first.line = n + 1) ∧
    (∀ n, n + 1 ∈ (ofLines source).continuedLines →
      (ofLines source).isOpenAbove (n + 1) = true →
      (ofLines source).hasSemicolon (n + 1) = false →
        (depths source)[n]? = some none ∧
          ∀ path settings, ∀ diagnostic ∈ checkLines path source settings,
            diagnostic.rule = "INDENT-STEP" → diagnostic.line ≠ n + 1) ∧
    ∀ n depth, (depths source)[n]? = some (some depth) →
      n + 1 ∉ (ofLines source).continuedLines ∨ (ofLines source).isOpenAbove (n + 1) = false →
        ∃ token, (ofLines source).tokens.find? (fun token =>
            token.isCode && token.line == n + 1) = some token ∧
          ∃ statement ∈ (ofLines source).statements, statement.head? = some token := by
  refine ⟨exists_depth_iff source, fun n continued isOpen noSemicolon => ?_,
    fun n depth deep fresh => ?_⟩
  · have noDepth (depth : Nat) : (depths source)[n]? ≠ some (some depth) := by
      intro deep
      obtain ⟨-, statement, member, -, first, starts, line_eq⟩ :=
        (exists_depth_iff source n).mp ⟨depth, deep⟩
      exact Tokenized.line_ne_of_isOpenAbove isOpen noSemicolon member starts line_eq
    constructor
    · obtain ⟨m, line_eq, ⟨cs, found, -⟩, -⟩ :=
        (Tokenized.mem_continuedLines_iff source (n + 1)).mp continued
      obtain rfl := Nat.succ.inj line_eq
      have inside : n < (depths source).length := by
        rw [length_depths, ← List.length_map Tokenized.lineText]
        exact (List.getElem?_eq_some_iff.mp found).1
      rw [List.getElem?_eq_getElem inside] at noDepth ⊢
      cases depth_eq : (depths source)[n] with
      | none => rfl
      | some depth => exact absurd (congrArg some depth_eq) (noDepth depth)
    · intro path settings diagnostic member named line_eq
      obtain ⟨m, depth, line_eq', deep⟩ := exists_depth_of_mem_checkLines member named
      obtain rfl : m = n := by omega
      exact noDepth depth deep
  · obtain ⟨-, statement, member, -, first, starts, line_eq⟩ :=
      (exists_depth_iff source n).mp ⟨depth, deep⟩
    obtain ⟨listed, code⟩ := Tokenized.isCode_of_head?_eq member starts
    have closed : (ofLines source).isOpenAbove (n + 1) = false := by
      rcases fresh with fresh | closed
      · rw [← line_eq] at fresh ⊢
        exact Tokenized.isOpenAbove_eq_false listed code fresh
      · exact closed
    obtain ⟨token, found⟩ : ∃ token, (ofLines source).tokens.find? (fun token =>
        token.isCode && token.line == n + 1) = some token := by
      rw [← Option.isSome_iff_exists, List.find?_isSome]
      exact ⟨first, listed, by simp [code, line_eq]⟩
    exact ⟨token, found, Tokenized.exists_head?_of_not_isOpenAbove closed found⟩

/-- A literal goes over two lines behind the start of its statement, with the spelling
of a semicolon inside. -/
theorem depths_of_continued_lines_literal :
    let source := ["print *, 'a;&", "   &b', &", "  c"]
    (2 ∈ (ofLines source).continuedLines ∧ (ofLines source).isOpenAbove 2 = true ∧
      (ofLines source).hasSemicolon 2 = false ∧ (depths source)[1]? = some none) ∧
    ∀ path settings, ∀ diagnostic ∈ checkLines path source settings,
      diagnostic.rule = "INDENT-STEP" → diagnostic.line ≠ 2 := by
  intro source
  have continued : 2 ∈ (ofLines source).continuedLines := by decide +kernel
  have isOpen : (ofLines source).isOpenAbove 2 = true := by decide +kernel
  have noSemicolon : (ofLines source).hasSemicolon 2 = false := by decide +kernel
  obtain ⟨noDepth, quiet⟩ :=
    (depths_of_continued_lines source).2.1 1 continued isOpen noSemicolon
  exact ⟨⟨continued, isOpen, noSemicolon, noDepth⟩, quiet⟩

/-- Behind a semicolon on a continued line starts a statement: the line has the depth
of that one, and it is reported that the line is not indented by it. -/
theorem depth_of_continued_line_semicolon :
    let source := ["a = 1 + &", "    2; b = 3"]
    let operand : Token := ⟨.number, "2", 2, 5, 2, 5⟩
    let reported := Rule.indentStep.diagnostic "a.f90" 2 5
      "Indented by 4 spaces; expected 0 at nesting depth 0"
    2 ∈ (ofLines source).continuedLines ∧ (depths source)[1]? = some (some 0) ∧
      reported ∈ checkLines "a.f90" source .default ∧
      (ofLines source).tokens.find? (fun token => token.isCode && token.line == 2) =
        some operand ∧
      ∀ statement ∈ (ofLines source).statements, statement.head? ≠ some operand := by
  intro source operand reported
  have judged : reported ∈ (Source.ofLines "a.f90" source).judge .default .indentStep := by
    decide +kernel
  refine ⟨?_, ?_, (Source.mem_check _).mpr ⟨_, judged⟩, ?_, ?_⟩
  · decide +kernel
  · decide +kernel
  · decide +kernel
  · decide +kernel

end Indentation

end FortranStyle
