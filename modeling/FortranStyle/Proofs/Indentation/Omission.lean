import FortranStyle.Proofs.Indentation.Continued
import FortranStyle.Proofs.Nesting.Account

/-!
# Statements that could be left out

The depths and the errors that a scan records depend on the open blocks alone.  So a statement
that opens and closes no block could as well be left out: no error would change, and no depth of
another line.
-/

namespace FortranStyle

namespace ScanState

open Statement (assignmentTarget? closer? isDivider unlabelled)

theorem depth_eq (state : ScanState) : state.depth = state.blocks.length :=
  (List.length_map _).symm

/-! ## Scans with the same open blocks -/

section Congruence

variable {state other : ScanState} (same : other.blocks = state.blocks)

include same

theorem turn_congr (statement : List Token) : other.turn statement = state.turn statement := by
  simp only [turn, mark?, same]

theorem blocks_step_congr (statement : List Token) :
    (other.step statement).blocks = (state.step statement).blocks := by
  have leads := (other.follows_step statement).leads
  rw [turn_congr same, same] at leads
  exact (state.follows_step statement).leads.unique leads

theorem history_congr (statements : List (List Token)) :
    other.history statements = state.history statements := by
  induction statements generalizing state other with
  | nil => rw [history, history, same]
  | cons statement rest ih =>
    rw [history, history, turn_congr same, ih (blocks_step_congr same statement)]

end Congruence

/-- The depth that a statement records for the line of its first token. -/
def placed (state : ScanState) (statement : List Token) : Nat :=
  let tokens := unlabelled statement
  if (assignmentTarget? tokens).isSome then state.depth
  else if (closer? tokens).isSome then (state.step statement).depth
  else if state.innermost.any (isDivider · tokens) then state.depth - 1
  else state.depth

theorem placed_congr {state other : ScanState} (same : other.blocks = state.blocks)
    (statement : List Token) : other.placed statement = state.placed statement := by
  simp only [placed, depth_eq, innermost_eq, same, blocks_step_congr same]

/-- A statement that stands in the innermost block has the depth of what is in this block. -/
theorem Stands.depth_eq {state : ScanState} {tokens : List Token} (stands : state.Stands tokens) :
    (if (assignmentTarget? tokens).isSome then state.depth
      else if state.innermost.any (isDivider · tokens) then state.depth - 1
      else state.depth) = state.depth := by
  simp [stands.noTarget, stands.noDivider]

theorem depths_step (state : ScanState) {label : Token} {others : List Token}
    (written : unlabelled (label :: others) ≠ []) :
    (state.step (label :: others)).depths =
      (label.line, state.placed (label :: others)) :: state.depths := by
  obtain ⟨first, rest, unlabelled_eq⟩ := List.exists_cons_of_ne_nil written
  rw [placed, unlabelled_eq]
  have deed := deed_step state label others unlabelled_eq
  cases closes : closer? (first :: rest) with
  | some closer =>
    cases target : (assignmentTarget? (first :: rest)).isSome with
    | true =>
      simp only [step, unlabelled_eq, target, if_true]
      exact depths_recordExecutable _ _
    | false =>
      have step_eq : state.step (label :: others) =
          (state.close closer first (rest.getLastD first)).recordDepth label
            (state.close closer first (rest.getLastD first)).depth := by
        simp only [step, unlabelled_eq, target, closes, Bool.false_eq_true, if_false]
      rw [step_eq]
      exact congrArg (_ :: ·) (depths_close _ _ _)
  | none =>
    rw [Option.isSome_none, if_neg Bool.false_ne_true]
    generalize state.mark? (label :: others) = mark, state.step (label :: others) = after at deed ⊢
    cases deed with
    | executes target =>
      rw [if_pos target]
      exact depths_recordExecutable _ _
    | closes _ closes' => rw [closes] at closes'; contradiction
    | divides noTarget divides =>
      simp only [noTarget, divides]
      rfl
    | contains noTarget divides =>
      simp only [noTarget, divides]
      exact depths_recordContains _ _
    | component stands => rw [stands.depth_eq]; rfl
    | enumerates stands => rw [stands.depth_eq]; exact depths_recordEnumerators _ _
    | member stands => rw [stands.depth_eq]; exact depths_recordMember _ _
    | opensUnit stands _ opened => rw [stands.depth_eq]; exact depths_openUnit? opened
    | opensProcedure stands _ opened => rw [stands.depth_eq]; exact depths_openProcedure? opened
    | opensInterface stands _ opened => rw [stands.depth_eq]; exact depths_openInterface? opened
    | opensType stands _ opened => rw [stands.depth_eq]; exact depths_openType? opened
    | opensConstruct stands _ opened => rw [stands.depth_eq]; exact depths_openConstruct? opened
    | records stands => rw [stands.depth_eq]; exact depths_recordPlain _ _

/-- Scans with the same open blocks record the same depths from there on. -/
theorem depths_run_congr {state other : ScanState} (same : other.blocks = state.blocks)
    (statements : List (List Token)) :
    ∃ recorded, (state.run statements).depths = recorded ++ state.depths ∧
      (other.run statements).depths = recorded ++ other.depths := by
  induction statements generalizing state other with
  | nil => exact ⟨[], rfl, rfl⟩
  | cons statement rest ih =>
    obtain ⟨recorded, depths_eq, depths_eq'⟩ := ih (blocks_step_congr same statement)
    have stepped (state : ScanState) :
        state.run (statement :: rest) = (state.step statement).run rest := rfl
    rw [stepped, stepped, depths_eq, depths_eq']
    by_cases bare : unlabelled statement = []
    · rw [step_of_unlabelled_eq_nil bare, step_of_unlabelled_eq_nil bare]
      exact ⟨recorded, rfl, rfl⟩
    · cases statement with
      | nil => exact absurd rfl bare
      | cons label others =>
        rw [depths_step _ bare, depths_step _ bare, placed_congr same]
        exact ⟨recorded ++ [(label.line, state.placed (label :: others))], by simp, by simp⟩

/-- What happens while statements are read does not depend on what follows them. -/
theorem exists_history_append (state : ScanState) (before : List (List Token)) :
    ∃ events, ∀ after, state.history (before ++ after) =
      events ++ (state.run before).history after := by
  induction before generalizing state with
  | nil => exact ⟨[], fun _ => rfl⟩
  | cons statement rest ih =>
    obtain ⟨events, history_eq⟩ := ih (state.step statement)
    refine ⟨state.turn statement ++ events, fun after => ?_⟩
    rw [List.cons_append, history, history_eq, List.append_assoc]
    rfl

end ScanState

/-! ## Outlines -/

namespace Outline

/-- A statement records no depth for other lines than its own. -/
theorem lookup_depths_step (state : ScanState) {statement : List Token} {line : Nat}
    (elsewhere : ∀ label, statement.head? = some label → label.line ≠ line)
    (recorded : List (Nat × Nat)) :
    (recorded ++ (state.step statement).depths).reverse.lookup line =
      (recorded ++ state.depths).reverse.lookup line := by
  by_cases bare : Statement.unlabelled statement = []
  · rw [ScanState.step_of_unlabelled_eq_nil bare]
  · cases statement with
    | nil => exact absurd rfl bare
    | cons label others =>
      have apart : (line == label.line) = false := by
        rw [beq_eq_false_iff_ne]
        exact (elsewhere label rfl).symm
      rw [ScanState.depths_step _ bare, List.reverse_append, List.reverse_append,
        List.reverse_cons, List.lookup_append, List.lookup_append, List.lookup_append,
        List.lookup_cons, apart]
      simp

/-- A statement that opens and closes no block could be left out: the errors would be the
same, and so would the depths of all lines but that on which the statement starts. -/
theorem ofStatements_omit (lineCount : Nat) (before after : List (List Token))
    {statement : List Token} (noMark : (ScanState.initial.run before).mark? statement = none) :
    let whole := ofStatements lineCount (before ++ statement :: after)
    let rest := ofStatements lineCount (before ++ after)
    whole.errors = rest.errors ∧
      ∀ n, (∀ label, statement.head? = some label → label.line ≠ n + 1) →
        whole.lineDepths[n]? = rest.lineDepths[n]? := by
  intro whole rest
  let state := ScanState.initial.run before
  have blocks_eq : (state.step statement).blocks = state.blocks :=
    state.blocks_step_of_mark?_none noMark
  constructor
  · obtain ⟨events, history_eq⟩ := ScanState.initial.exists_history_append before
    have nothing : state.turn statement = [] := by
      rw [ScanState.turn, noMark]
      rfl
    rw [errors_ofStatements, errors_ofStatements, history_eq, history_eq, ScanState.history,
      nothing, List.nil_append, ScanState.history_congr blocks_eq]
  · intro n elsewhere
    obtain ⟨recorded, rest_eq, whole_eq⟩ := ScanState.depths_run_congr blocks_eq after
    have run_eq (statements : List (List Token)) :
        ScanState.initial.run (before ++ statements) = state.run statements :=
      List.foldl_append
    have step_eq : state.run (statement :: after) = (state.step statement).run after := rfl
    rw [(ofStatements_eq lineCount 0 _).2, (ofStatements_eq lineCount 0 _).2, List.getElem?_map,
      List.getElem?_map]
    by_cases inside : n < lineCount
    · rw [List.getElem?_range' inside, Option.map_some, Option.map_some, run_eq, run_eq, step_eq,
        rest_eq, whole_eq, Nat.one_mul, Nat.add_comm, lookup_depths_step state elsewhere]
    · rw [List.getElem?_eq_none (by simpa using inside), Option.map_none, Option.map_none]

end Outline

end FortranStyle
