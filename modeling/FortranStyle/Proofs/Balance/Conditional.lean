import FortranStyle.Proofs.Balance.Balanced
import FortranStyle.Proofs.Indentation.Omission
import FortranStyle.Proofs.Roster.Effect

/-!
# Conditional statements

IF and a condition in brackets open a block when THEN alone follows, and guard the statement
that follows otherwise.  Whether a block is opened is decided by the last token, which is THEN
also when the guarded statement happens to end in a name of this spelling.  In all other cases
the action of the guarded statement is recorded, and no block is opened: but for the depth of
its own line and the action, the statement could as well be left out.
-/

namespace FortranStyle

open FortranStyle.Bracket (Balanced)

namespace Statement

/-- IF, a condition in brackets, and what follows it. -/
inductive IsConditional : List Token → List Token → Prop
  | intro {word opening closing : Token} {condition rest : List Token}
      (isWord : word.isWord "if" = true) (opens : opening.isOp "(" = true)
      (balanced : Balanced condition) (closes : closing.isClosing = true) :
      IsConditional (word :: opening :: (condition ++ closing :: rest)) rest

/-- THEN and nothing else. -/
def IsThen (tokens : List Token) : Prop :=
  ∃ token, tokens = [token] ∧ token.isWord "then" = true

/-- A run of tokens whose last one is spelled THEN. -/
def endsInThen (tokens : List Token) : Bool :=
  tokens.getLast?.any (·.isWord "then")

theorem IsThen.endsInThen {tokens : List Token} (isThen : IsThen tokens) :
    endsInThen tokens = true := by
  obtain ⟨token, rfl, isWord⟩ := isThen
  exact isWord

/-! ## Reading a conditional statement -/

section Reading

variable {tokens rest : List Token}

theorem leadsToAssignment_of_isThen (isThen : IsThen rest) : leadsToAssignment rest = false := by
  obtain ⟨token, rfl, isWord⟩ := isThen
  exact (inert_name (Token.reads_of_isWord isWord).isName []).noAssignment

theorem action?_of_isThen (isThen : IsThen rest) : action? rest = none := by
  obtain ⟨token, rfl, isWord⟩ := isThen
  have reads := Token.reads_of_isWord isWord
  rw [action?, assignmentTarget?_eq_none inert_nil]
  simp [isGuardWord, startsBracket, reads.isAmong_eq, reads.isWord_eq, Vocabulary.effectWords]

namespace IsConditional

variable (conditional : IsConditional tokens rest)
include conditional

theorem exists_cons : ∃ word bracketed, tokens = word :: bracketed ∧ word.Reads "if" ∧
    startsBracket bracketed = true ∧ Bracket.beyond bracketed = rest := by
  cases conditional with
  | @intro word opening closing condition _ isWord opens balanced closes =>
    have closed := balanced.closingIndex?_pair (Bracket.isOpening_of_isOp opens) closes
    exact ⟨word, _, rfl, Token.reads_of_isWord isWord, opens, Bracket.beyond_eq closed rest⟩

/-- A conditional statement is an assignment to an array of the name when what follows the
brackets makes it one. -/
theorem isSome_assignmentTarget? :
    (assignmentTarget? tokens).isSome = leadsToAssignment rest := by
  obtain ⟨word, bracketed, rfl, reads, starts, rfl⟩ := conditional.exists_cons
  rw [assignmentTarget?, reads.isName, Bool.true_and, leadsToAssignment_bracket starts]
  cases leadsToAssignment (Bracket.beyond bracketed) <;> rfl

/-- The last token decides whether a block is opened. -/
theorem construct?_eq : construct? tokens = if endsInThen rest then some .ifThen else none := by
  cases conditional with
  | @intro word opening closing condition _ isWord opens balanced closes =>
    have last_eq : (opening :: (condition ++ closing :: rest)).getLast?.any (·.isWord "then") =
        endsInThen rest := by
      have noThen : closing.isWord "then" = false := by
        by_contra isWord
        have reads := Token.reads_of_isWord (eq_true_of_ne_false isWord)
        rw [(Token.isFlat_of_isName reads.isName).noClosing] at closes
        contradiction
      cases rest with
      | nil => simp [endsInThen, List.getLast?_cons, List.getLast?_append, noThen]
      | cons first later => simp [endsInThen, List.getLast?_cons, List.getLast?_append]
    have length_le : 2 ≤ (opening :: (condition ++ closing :: rest)).length := by
      rw [List.length_cons, List.length_append, List.length_cons]
      omega
    rw [construct?, (Token.reads_of_isWord isWord).word_eq]
    simp only [startsBracket, opens, length_le, last_eq, decide_true, Bool.true_and]

/-- The action is that of the guarded statement. -/
theorem action?_eq (noTarget : leadsToAssignment rest = false) :
    action? tokens = action? rest := by
  have target_eq := conditional.isSome_assignmentTarget?
  rw [noTarget, Option.isSome_eq_false_iff, Option.isNone_iff_eq_none] at target_eq
  obtain ⟨word, bracketed, rfl, reads, starts, rfl⟩ := conditional.exists_cons
  have guards : (isGuardWord word && startsBracket bracketed) = true := by
    simp [isGuardWord, reads.isAmong_eq, starts]
  rw [action?.eq_def]
  simp only [target_eq, guards, if_true]
  cases bracketed with
  | nil => contradiction
  | cons bracket condition => rfl

theorem quiet (noTarget : leadsToAssignment rest = false) : Quiet tokens := by
  obtain ⟨word, bracketed, rfl, reads, starts, rfl⟩ := conditional.exists_cons
  exact Statement.quiet reads (by decide)
    ⟨(leadsToAssignment_bracket starts).trans noTarget, noColon_bracket starts⟩

theorem isDivider_eq_false (kind : BlockKind) : isDivider kind tokens = false := by
  obtain ⟨word, bracketed, rfl, reads, -, -⟩ := conditional.exists_cons
  exact Statement.isDivider_eq_false reads (by decide) kind

end IsConditional

end Reading

/-! ## What a conditional statement means -/

section Marks

variable {statement tokens rest : List Token} (unlabelled_eq : unlabelled statement = tokens)
  (conditional : IsConditional tokens rest)

include unlabelled_eq conditional

theorem mark?_of_isAssignment (target : leadsToAssignment rest = true)
    (innermost : Option BlockKind) : mark? innermost statement = none := by
  have isSome := conditional.isSome_assignmentTarget?
  obtain ⟨word, bracketed, rfl, -, -, -⟩ := conditional.exists_cons
  simp only [mark?, unlabelled_eq, isSome, target, if_true]

/-- When it is no assignment, a conditional statement opens a block if it ends in THEN and
stands where statements of every sort may stand. -/
theorem exists_mark?_eq (noTarget : leadsToAssignment rest = false)
    (innermost : Option BlockKind) :
    ∃ word, tokens.head? = some word ∧ mark? innermost statement =
      if innermost.all (·.isOrdinary) && endsInThen rest then
        some (.opens ⟨word, .construct .ifThen, ConstructKind.ifThen.word⟩)
      else none := by
  have quiet := conditional.quiet noTarget
  have construct_eq := conditional.construct?_eq
  have noDivider : innermost.any (isDivider · tokens) = false := by
    simp [conditional.isDivider_eq_false]
  obtain ⟨word, bracketed, rfl, -, -, -⟩ := conditional.exists_cons
  refine ⟨word, rfl, ?_⟩
  simp only [mark?, unlabelled_eq, quiet.noAssignment, quiet.noCloser, noDivider,
    Option.isSome_none, Bool.false_eq_true, if_false]
  by_cases inside : innermost.all (·.isOrdinary) = true
  · rw [ScanState.opened?_of_isOrdinary inside, quiet.noUnit, quiet.noProcedure,
      quiet.noInterface, quiet.noType, construct_eq, inside, Bool.true_and]
    cases endsInThen rest <;> rfl
  · rw [eq_false_of_ne_true inside, Bool.false_and, if_neg Bool.false_ne_true]
    rcases innermost with _ | kind | kind | _ | _ | kind
    case some.interface => simp [opened?, quiet.noProcedure]
    case some.derivedType => rfl
    case some.construct =>
      cases kind
      case enumeration => rfl
      all_goals exact absurd rfl inside
    all_goals exact absurd rfl inside

/-- No block is opened by a conditional statement that does not end in THEN, wherever it
stands. -/
theorem mark?_of_not_endsInThen (noThen : endsInThen rest = false)
    (innermost : Option BlockKind) : mark? innermost statement = none := by
  cases target : leadsToAssignment rest with
  | true => exact mark?_of_isAssignment unlabelled_eq conditional target innermost
  | false =>
    obtain ⟨word, -, mark_eq⟩ := exists_mark?_eq unlabelled_eq conditional target innermost
    rw [mark_eq, noThen, Bool.and_false, if_neg Bool.false_ne_true]

end Marks

end Statement

open Statement

/-! ## Recording actions -/

/-- A procedure with more actions at its end. -/
def Procedure.act (actions : List Action) (procedure : Procedure) : Procedure :=
  { procedure with actions := procedure.actions ++ actions }

/-- What changes the procedure that is the innermost scope changes no other. -/
theorem Frames.procedure?_mapScope {f : Scope → Scope} {g : Procedure → Procedure}
    (within : ∀ scope, (f scope).node = scope.node.mapProcedure g) (frames : List Frame) :
    procedure? (mapScope f frames) = (procedure? frames).map g := by
  rw [procedure?, scope?_mapScope, procedure?]
  rcases scope? frames with _ | scope
  · rfl
  · have node_eq := within scope
    rw [Option.map_some]
    generalize f scope = after at node_eq ⊢
    obtain ⟨opener, node, inSpecification, nested⟩ := scope
    cases after
    subst node_eq
    cases node with
    | programUnit node => rfl
    | procedure node => rfl

namespace ScanState

variable {state : ScanState}

theorem procedure?_mapProcedure (f : Procedure → Procedure) :
    Frames.procedure? (state.mapProcedure f).frames =
      (Frames.procedure? state.frames).map f :=
  Frames.procedure?_mapScope (fun _ => rfl) state.frames

theorem procedure?_endSpecification :
    Frames.procedure? state.endSpecification.frames = Frames.procedure? state.frames := by
  have within (node : ScopeNode) : node = node.mapProcedure id := by
    cases node with
    | programUnit node => rfl
    | procedure node => rfl
  have ended_eq := Frames.procedure?_mapScope
    (f := fun scope => { scope with inSpecification := false }) (fun scope => within scope.node)
    state.frames
  rwa [Option.map_id, id] at ended_eq

/-- An executable statement has its action recorded in the innermost procedure. -/
theorem procedure?_recordExecutable (tokens : List Token) :
    Frames.procedure? (state.recordExecutable tokens).frames =
      (Frames.procedure? state.frames).map (Procedure.act (action? tokens).toList) := by
  cases action_eq : action? tokens with
  | none =>
    have recorded_eq : state.recordExecutable tokens = state.endSpecification := by
      rw [recordExecutable, action_eq]
      rfl
    have idle : Procedure.act [] = id := by
      funext procedure
      rw [Procedure.act, List.append_nil]
      cases procedure
      rfl
    rw [recorded_eq, procedure?_endSpecification, Option.toList_none, idle, Option.map_id, id]
  | some action =>
    have recorded_eq : state.recordExecutable tokens =
        state.endSpecification.mapProcedure (.act [action]) := by
      rw [recordExecutable, action_eq]
      rfl
    rw [recorded_eq, procedure?_mapProcedure, procedure?_endSpecification, Option.toList_some]

/-- A quiet statement in an ordinary block opens a construct or is recorded. -/
theorem step_of_quiet_inside {label : Token} {others tokens : List Token}
    (unlabelled_eq : unlabelled (label :: others) = tokens) (filled : tokens ≠ [])
    (quiet : Quiet tokens) (noDivider : ∀ kind, isDivider kind tokens = false)
    (inside : state.innermost.all (·.isOrdinary) = true) :
    state.step (label :: others) =
      ((state.recordDepth label state.depth).openConstruct? tokens).getD
        ((state.recordDepth label state.depth).recordPlain tokens) := by
  obtain ⟨first, rest, rfl⟩ := List.exists_cons_of_ne_nil filled
  have noted_inside : (state.recordDepth label state.depth).innermost.all (·.isOrdinary) = true :=
    inside
  simp only [step, unlabelled_eq, quiet.noAssignment, quiet.noCloser, noDivider,
    Option.isSome_none, Option.any_false, Bool.false_eq_true, if_false]
  rw [recordInside_of_innermost_isOrdinary noted_inside]
  simp [openUnit?, openProcedure?, openInterface?, openType?, quiet.noUnit, quiet.noProcedure,
    quiet.noInterface, quiet.noType]

/-- A conditional statement is executable, also when it opens a block. -/
theorem procedure?_step_of_isConditional {statement tokens rest : List Token}
    (unlabelled_eq : unlabelled statement = tokens) (conditional : IsConditional tokens rest)
    (inside : state.innermost.all (·.isOrdinary) = true) :
    Frames.procedure? (state.step statement).frames =
      (Frames.procedure? state.frames).map (Procedure.act (action? tokens).toList) := by
  have target_eq := conditional.isSome_assignmentTarget?
  have construct_eq := conditional.construct?_eq
  have noDivider := conditional.isDivider_eq_false
  have quiet := conditional.quiet
  obtain ⟨word, bracketed, rfl, reads, -, -⟩ := conditional.exists_cons
  cases statement with
  | nil => contradiction
  | cons label others =>
  let noted := state.recordDepth label state.depth
  have recorded : Frames.procedure? (noted.recordExecutable (word :: bracketed)).frames =
      (Frames.procedure? state.frames).map
        (Procedure.act (action? (word :: bracketed)).toList) :=
    procedure?_recordExecutable _
  cases target : leadsToAssignment rest with
  | true =>
    have step_eq : state.step (label :: others) = noted.recordExecutable (word :: bracketed) := by
      simp only [step, unlabelled_eq, target_eq, target, if_true, noted]
    rwa [step_eq]
  | false =>
    rw [step_of_quiet_inside unlabelled_eq (List.cons_ne_nil _ _) (quiet target) noDivider inside,
      openConstruct?, construct_eq]
    cases endsInThen rest with
    | true => exact recorded
    | false =>
      have unknown : isSpecification (word :: bracketed) = false := by
        simp [isSpecification, isDeclaration, reads.isAmong_eq, Vocabulary.specificationWords,
          Vocabulary.intrinsicTypes]
      change Frames.procedure? (noted.recordPlain (word :: bracketed)).frames = _
      rwa [recordPlain_of_unknown unknown]

end ScanState

/-! ## Blocks and guarded statements -/

/-- A conditional statement has the action of what it guards, and wherever it may be executed
this is recorded; THEN alone is no action.  A block is opened exactly for THEN alone, unless
the guarded statement ends in a name of that spelling: then a block is opened, too.  In all
other cases no error and no depth of another line depends on the statement. -/
theorem block_of_conditional {statement tokens rest : List Token}
    (unlabelled_eq : unlabelled statement = tokens) (conditional : IsConditional tokens rest) :
    ((construct? tokens = some .ifThen ↔ IsThen rest) ↔
        (endsInThen rest = true → IsThen rest)) ∧
      (IsThen rest → action? tokens = none) ∧
      (leadsToAssignment rest = false → action? tokens = action? rest) ∧
      (∀ state : ScanState, state.innermost.all (·.isOrdinary) = true →
        Frames.procedure? (state.step statement).frames =
          (Frames.procedure? state.frames).map (Procedure.act (action? tokens).toList)) ∧
      (leadsToAssignment rest = false → endsInThen rest = true →
        ∀ state : ScanState, state.innermost.all (·.isOrdinary) = true →
          ∃ word, tokens.head? = some word ∧ (state.step statement).blocks =
            ⟨word, .construct .ifThen, ConstructKind.ifThen.word⟩ :: state.blocks) ∧
      (endsInThen rest = false →
        (∀ state : ScanState, (state.step statement).blocks = state.blocks) ∧
        ∀ (lineCount : Nat) (before after : List (List Token)),
          let whole := Outline.ofStatements lineCount (before ++ statement :: after)
          let others := Outline.ofStatements lineCount (before ++ after)
          whole.errors = others.errors ∧
            ∀ n, (∀ label, statement.head? = some label → label.line ≠ n + 1) →
              whole.lineDepths[n]? = others.lineDepths[n]?) := by
  refine ⟨?_, ?_, conditional.action?_eq, ?_, ?_, ?_⟩
  · rw [conditional.construct?_eq]
    constructor
    · intro agree ends
      rw [ends] at agree
      exact agree.mp rfl
    · intro plain
      constructor
      · intro opens
        apply plain
        by_contra noThen
        rw [eq_false_of_ne_true noThen] at opens
        contradiction
      · intro isThen
        rw [isThen.endsInThen, if_pos rfl]
  · intro isThen
    rw [conditional.action?_eq (leadsToAssignment_of_isThen isThen), action?_of_isThen isThen]
  · intro state inside
    exact ScanState.procedure?_step_of_isConditional unlabelled_eq conditional inside
  · intro noTarget ends state inside
    obtain ⟨word, head_eq, mark_eq⟩ :=
      exists_mark?_eq unlabelled_eq conditional noTarget state.innermost
    rw [inside, ends, Bool.and_true, if_pos rfl, ScanState.innermost_eq] at mark_eq
    exact ⟨word, head_eq, state.blocks_step_of_opens mark_eq rfl⟩
  · intro noThen
    have noMark (state : ScanState) : state.mark? statement = none :=
      mark?_of_not_endsInThen unlabelled_eq conditional noThen _
    constructor
    · intro state
      exact state.blocks_step_of_mark?_none (noMark state)
    · intro lineCount before after
      exact Outline.ofStatements_omit lineCount before after (noMark _)

/-- A guarded assignment of a number is recorded and opens no block. -/
theorem block_of_conditional_assignment :
    let rest : List Token := [⟨.identifier, "x", 1, 9, 1, 9⟩, ⟨.operator, "=", 1, 11, 1, 11⟩,
      ⟨.number, "1", 1, 13, 1, 13⟩]
    let statement : List Token := [⟨.keyword, "if", 1, 1, 1, 2⟩, ⟨.operator, "(", 1, 4, 1, 4⟩,
      ⟨.identifier, "ok", 1, 5, 1, 6⟩, ⟨.operator, ")", 1, 7, 1, 7⟩] ++ rest
    (Tokenized.ofLines ["if (ok) x = 1"]).statements = [statement] ∧
      IsConditional statement rest ∧ construct? statement ≠ some .ifThen ∧
      action? statement = some (.assignment ⟨.identifier, "x", 1, 9, 1, 9⟩) ∧
      ∀ state : ScanState, (state.step statement).blocks = state.blocks := by
  intro rest statement
  have conditional : IsConditional statement rest :=
    @IsConditional.intro _ _ _ [⟨.identifier, "ok", 1, 5, 1, 6⟩] rest (by decide) (by decide)
      (by decide) (by decide)
  have unlabelled_eq : unlabelled statement = statement := by decide
  have noThen : endsInThen rest = false := by decide
  have noBlock : ¬IsThen rest := by
    intro isThen
    rw [isThen.endsInThen] at noThen
    contradiction
  have noTarget : leadsToAssignment rest = false := by decide +kernel
  obtain ⟨exact_iff, -, acts, -, -, quiet⟩ := block_of_conditional unlabelled_eq conditional
  have agree : construct? statement = some .ifThen ↔ IsThen rest := by
    apply exact_iff.mpr
    intro ends
    rw [ends] at noThen
    contradiction
  refine ⟨by decide +kernel, conditional, fun opens => noBlock (agree.mp opens), ?_,
    (quiet noThen).1⟩
  rw [acts noTarget]
  decide +kernel

/-- A variable may be named THEN.  Its guarded assignment is taken to open a block, which is
never closed, and the next line is expected inside it. -/
theorem block_of_conditional_named_then :
    let lines := ["if (ok) x = then", "y = 1"]
    let rest : List Token := [⟨.identifier, "x", 1, 9, 1, 9⟩, ⟨.operator, "=", 1, 11, 1, 11⟩,
      ⟨.keyword, "then", 1, 13, 1, 16⟩]
    let statement : List Token := [⟨.keyword, "if", 1, 1, 1, 2⟩, ⟨.operator, "(", 1, 4, 1, 4⟩,
      ⟨.identifier, "ok", 1, 5, 1, 6⟩, ⟨.operator, ")", 1, 7, 1, 7⟩] ++ rest
    (Tokenized.ofLines lines).statements.head? = some statement ∧
      IsConditional statement rest ∧ ¬IsThen rest ∧ construct? statement = some .ifThen ∧
      action? rest = some (.assignment ⟨.identifier, "x", 1, 9, 1, 9⟩) ∧
      (Source.ofLines "a.f90" lines).outline.lineDepths = [some 0, some 1] ∧
      (Source.ofLines "a.f90" lines).outline.errors =
        [⟨.neverClosed (.construct .ifThen) "if" 1, 1, 1⟩] ∧
      Rule.checkIndent (.ofLines "a.f90" lines) =
        [⟨2, 1, "Indented by 0 spaces; expected 2 at nesting depth 1"⟩] := by
  intro lines rest statement
  refine ⟨by decide +kernel, ?_, ?_, by decide, by decide +kernel, by decide +kernel,
    by decide +kernel, by decide +kernel⟩
  · exact @IsConditional.intro _ _ _ [⟨.identifier, "ok", 1, 5, 1, 6⟩] rest (by decide)
      (by decide) (by decide) (by decide)
  · rintro ⟨token, alone, -⟩
    have length_eq : 3 = 1 := congrArg List.length alone
    contradiction

end FortranStyle
