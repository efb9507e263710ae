import FortranStyle.Proofs.Position.Block

/-!
# A scan by position

One statement after the other, on a stack of blocks that may refuse.  A scan that
starts with an empty stack is never refused anything: every statement has a first
token, and every block on the stack is that of a frame.
-/

namespace FortranStyle.Position

variable (state : ScanState) {tokens : List Token}

/-! ## Statements that open and close nothing -/

/-- Record CONTAINS in the innermost block. -/
def State.recordContains (state : State) (token : Token) : Attempt State := do
  let (block, rest) ← pop state.stack
  if block.kind.isScope then
    let block := { block with inSpecification := false }
    if isUnit block.kind then
      let node ← block.node.programUnit?
      let block := block.withNode (.programUnit { node with containsLine := some token.line })
      pure { state with stack := block :: rest }
    else
      pure { state with stack := block :: rest }
  else
    pure state

theorem recordContains_eq (token : Token) {frame : Frame} {rest : List Frame}
    (frames_eq : state.frames = frame :: rest) :
    (State.ofScan state).recordContains token = some (.ofScan (state.recordContains token)) := by
  obtain ⟨frames, units, external, topLevel, misplacedUses, errors, depths⟩ := state
  subst frames_eq
  cases frame with
  | scope scope =>
    obtain ⟨opener, node, inSpecification, nested⟩ := scope
    cases node <;> rfl
  | interface _ _ => rfl
  | derivedType _ _ => rfl
  | construct _ _ => rfl

/-- Record a statement that opens and closes nothing. -/
def State.recordPlain (state : State) (tokens : List Token) : Attempt State := do
  let first ← tokens[0]?
  if first.isWord "use" then state.recordUse tokens
  else if first.isWord "implicit" then state.recordImplicit tokens
  else if ← isDeclaration tokens then state.recordDeclaration tokens
  else if first.isWord "public" then state.recordAccess .isPublic tokens
  else if first.isWord "private" then state.recordAccess .isPrivate tokens
  else if first.isWord "intent" then state.recordIntent tokens
  else if first.isWord "save" then state.recordSave tokens
  else if first.isWord "external" then state.mapProcedure (externalIn tokens)
  else if first.isAmong Vocabulary.specificationWords then pure state
  else state.recordExecutable tokens

theorem recordPlain_eq (filled : tokens ≠ []) :
    (State.ofScan state).recordPlain tokens = some (.ofScan (state.recordPlain tokens)) := by
  obtain ⟨first, rest, rfl⟩ := List.exists_cons_of_ne_nil filled
  simp only [State.recordPlain, ScanState.recordPlain, List.getElem?_cons_zero,
    isDeclaration_eq filled, Option.bind_eq_bind, Option.bind_some, recordUse_eq state filled,
    recordImplicit_eq, recordDeclaration_eq state filled, recordAccess_eq, recordIntent_eq,
    recordSave_eq, recordExternal_eq, recordExecutable_eq state filled, Option.pure_def]
  repeat' split
  all_goals rfl

/-! ## Statements inside a block -/

/-- The first of some readers that opens a block; what is left when none does. -/
def firstOf (readers : List (Attempt (Option State))) (otherwise : Attempt State) :
    Attempt State :=
  match readers with
  | [] => otherwise
  | reader :: rest => do
      match ← reader with
      | some state => pure state
      | none => firstOf rest otherwise

/-- Record a statement inside the innermost block, by the kind of that block. -/
def State.recordInside (state : State) (top : Option BlockKind) (tokens : List Token) :
    Attempt State :=
  match top with
  | some .derivedType => pure state
  | some (.construct .enumeration) => state.recordEnumerators tokens
  | some .interface => firstOf [state.openProcedure? tokens] (state.recordMember tokens)
  | _ =>
      firstOf
        [state.openUnit? tokens, state.openProcedure? tokens, state.openInterface? tokens,
          state.openType? tokens, state.openConstruct? tokens]
        (state.recordPlain tokens)

theorem firstOf_eq (found : List (Option ScanState)) {otherwise : Attempt State}
    {left : ScanState} (kept : otherwise = some (.ofScan left)) :
    firstOf (found.map fun after => some (after.map .ofScan)) otherwise =
      some (.ofScan ((found.findSome? id).getD left)) := by
  subst kept
  induction found with
  | nil => rfl
  | cons after rest ih =>
    cases after with
    | none => exact ih
    | some after => rfl

/-- What a statement opens, or what it records when it opens nothing. -/
theorem firstOf_openers_eq (filled : tokens ≠ []) :
    firstOf
        [(State.ofScan state).openUnit? tokens, (State.ofScan state).openProcedure? tokens,
          (State.ofScan state).openInterface? tokens, (State.ofScan state).openType? tokens,
          (State.ofScan state).openConstruct? tokens]
        ((State.ofScan state).recordPlain tokens) =
      some (.ofScan ((state.openUnit? tokens
        <|> state.openProcedure? tokens
        <|> state.openInterface? tokens
        <|> state.openType? tokens
        <|> state.openConstruct? tokens).getD (state.recordPlain tokens))) := by
  have first := firstOf_eq [state.openUnit? tokens, state.openProcedure? tokens,
    state.openInterface? tokens, state.openType? tokens, state.openConstruct? tokens]
    (recordPlain_eq state filled)
  rw [openUnit?_eq state filled, openProcedure?_eq state filled, openInterface?_eq state filled,
    openType?_eq state filled, openConstruct?_eq state filled]
  refine first.trans ?_
  cases state.openUnit? tokens <;> cases state.openProcedure? tokens <;>
    cases state.openInterface? tokens <;> cases state.openType? tokens <;>
    cases state.openConstruct? tokens <;> rfl

theorem recordInside_eq (filled : tokens ≠ []) :
    (State.ofScan state).recordInside (state.frames.head?.map Frame.kind) tokens =
      some (.ofScan (state.recordInside tokens)) := by
  have opened := firstOf_openers_eq state filled
  rw [ScanState.recordInside]
  cases frames_eq : state.frames with
  | nil => exact opened
  | cons frame rest =>
    cases frame with
    | scope scope =>
      obtain ⟨opener, node, inSpecification, nested⟩ := scope
      cases node with
      | programUnit node => exact opened
      | procedure node => exact opened
    | interface opener block =>
      have first := firstOf_eq [state.openProcedure? tokens] (recordMember_eq frames_eq filled)
      change firstOf [(State.ofScan state).openProcedure? tokens] _ = _
      rw [openProcedure?_eq state filled]
      refine first.trans ?_
      cases state.openProcedure? tokens <;> rfl
    | derivedType opener name => rfl
    | construct opener kind =>
      cases kind with
      | enumeration => exact recordEnumerators_eq state filled
      | _ => exact opened

/-! ## One statement after the other -/

/-- The kind of the innermost block, if there is one. -/
def topKind? (stack : List Block) : Attempt (Option BlockKind) :=
  if 0 < stack.length then stack[0]?.map fun block => some block.kind else pure none

theorem topKind?_eq (frames : List Frame) :
    topKind? (frames.map .ofFrame) = some (frames.head?.map Frame.kind) := by
  cases frames with
  | nil => rfl
  | cons frame rest => simp [topKind?]

/-- Whether a statement divides the innermost block. -/
def dividesTop (top : Option BlockKind) (tokens : List Token) : Attempt Bool :=
  match top with
  | some kind => isDivider kind tokens
  | none => pure false

theorem dividesTop_eq (top : Option BlockKind) (filled : tokens ≠ []) :
    dividesTop top tokens = some (top.any (Statement.isDivider · tokens)) := by
  cases top with
  | none => rfl
  | some kind => exact isDivider_eq kind filled

/-- Read one statement. -/
def State.step (state : State) (statement : List Token) : Attempt State := do
  let label ← statement[0]?
  let tokens ← unlabelled statement
  if tokens.isEmpty then
    pure state
  else
    let depth := state.stack.length
    let top ← topKind? state.stack
    if (← assignmentTarget? tokens).isSome then
      (state.recordDepth label depth).recordExecutable tokens
    else
      match ← closer? tokens with
      | some closer =>
          let closed ← state.close closer tokens
          pure (closed.recordDepth label closed.stack.length)
      | none =>
          if ← dividesTop top tokens then
            let divided := state.recordDepth label (depth - 1)
            let first ← tokens[0]?
            if first.isWord "contains" then divided.recordContains first else pure divided
          else
            (state.recordDepth label depth).recordInside top tokens

theorem step_eq {statement : List Token} (filled : statement ≠ []) :
    (State.ofScan state).step statement = some (.ofScan (state.step statement)) := by
  obtain ⟨label, rest, rfl⟩ := List.exists_cons_of_ne_nil filled
  have depth_eq : (State.ofScan state).stack.length = state.depth := List.length_map _
  have top_eq : topKind? (State.ofScan state).stack = some (state.frames.head?.map Frame.kind) :=
    topKind?_eq state.frames
  rw [State.step, unlabelled_eq filled, ScanState.step.eq_def]
  simp only [List.getElem?_cons_zero, Option.bind_eq_bind, Option.bind_some]
  cases Statement.unlabelled (label :: rest) with
  | nil => rfl
  | cons first rest =>
    have kept : first :: rest ≠ [] := List.cons_ne_nil _ _
    simp only [List.isEmpty_cons, Bool.false_eq_true, if_false, depth_eq, top_eq,
      assignmentTarget?_eq, closer?_eq kept, recordDepth_eq, Option.bind_some]
    cases (Statement.assignmentTarget? (first :: rest)).isSome with
    | true => exact recordExecutable_eq (state.recordDepth label state.depth) kept
    | false =>
      simp only [Bool.false_eq_true, if_false]
      cases Statement.closer? (first :: rest) with
      | some closer =>
        have closed_depth :
            (State.ofScan (state.close closer first (rest.getLastD first))).stack.length =
            (state.close closer first (rest.getLastD first)).depth := List.length_map _
        simp only [close_eq, Option.bind_some, closed_depth]
        rfl
      | none =>
        rw [dividesTop_eq _ kept]
        simp only [Option.bind_some]
        cases divides : (state.frames.head?.map Frame.kind).any
            (Statement.isDivider · (first :: rest)) with
        | false => exact recordInside_eq (state.recordDepth label state.depth) kept
        | true =>
          cases frames_eq : state.frames with
          | nil =>
            rw [frames_eq] at divides
            contradiction
          | cons frame below =>
            have divided := recordContains_eq (state.recordDepth label (state.depth - 1)) first
              frames_eq
            simp only [if_true, List.getElem?_cons_zero, Option.bind_some, divided]
            split <;> rfl

/-- Read statements one after the other. -/
def State.run (state : State) (statements : List (List Token)) : Attempt State :=
  statements.foldlM State.step state

/-- A run never stops: what holds of one step holds of each. -/
theorem run_eq {statements : List (List Token)}
    (filled : ∀ statement ∈ statements, statement ≠ []) :
    (State.ofScan state).run statements = some (.ofScan (state.run statements)) := by
  induction statements generalizing state with
  | nil => rfl
  | cons statement rest ih =>
    rw [List.forall_mem_cons] at filled
    rw [State.run, List.foldlM_cons, step_eq state filled.1]
    exact ih (state.step statement) filled.2

/-! ## The outline -/

/-- Write down the depth of a line, unless it has one already.  A line that the
source does not have is left out. -/
def noteDepth (depths : List (Option Nat)) (entry : Nat × Nat) : Attempt (List (Option Nat)) := do
  let isOpen ← guarded (0 < entry.1) (guarded (entry.1 - 1 < depths.length)
    (depths[entry.1 - 1]?.map (·.isNone)))
  pure (if isOpen then depths.set (entry.1 - 1) (some entry.2) else depths)

/-- The depths that some entries give to the lines: the first one counts. -/
def depthsOf (lineCount : Nat) (entries : List (Nat × Nat)) : List (Option Nat) :=
  (List.range lineCount).map fun index => entries.lookup (index + 1)

theorem getElem?_depthsOf {lineCount : Nat} (entries : List (Nat × Nat)) {index : Nat}
    (inside : index < lineCount) :
    (depthsOf lineCount entries)[index]? = some (entries.lookup (index + 1)) := by
  rw [depthsOf, List.getElem?_map, List.getElem?_range inside]
  rfl

theorem getElem_depthsOf {lineCount index : Nat} (entries : List (Nat × Nat))
    (inside : index < (depthsOf lineCount entries).length) :
    (depthsOf lineCount entries)[index] = entries.lookup (index + 1) := by
  simp [depthsOf]

theorem depthsOf_append (lineCount : Nat) (entries : List (Nat × Nat)) (line depth : Nat) :
    depthsOf lineCount (entries ++ [(line, depth)]) =
      if 0 < line ∧ line - 1 < lineCount ∧ entries.lookup line = none then
        (depthsOf lineCount entries).set (line - 1) (some depth)
      else depthsOf lineCount entries := by
  have length_eq (found : List (Nat × Nat)) : (depthsOf lineCount found).length = lineCount := by
    simp [depthsOf]
  apply List.ext_getElem?
  intro index
  by_cases inside : index < lineCount
  · rw [getElem?_depthsOf _ inside, List.lookup_append]
    by_cases here : index + 1 = line
    · subst here
      cases earlier : entries.lookup (index + 1) with
      | none => simp [inside, length_eq]
      | some found => simp [earlier, getElem?_depthsOf _ inside]
    · have other : [(line, depth)].lookup (index + 1) = none := by
        rw [List.lookup_cons, beq_false_of_ne here]
        rfl
      rw [other, Option.or_none]
      split
      · rw [List.getElem?_set_ne (by omega), getElem?_depthsOf _ inside]
      · rw [getElem?_depthsOf _ inside]
  · have outside (found : List (Option Nat)) (same : found.length = lineCount) :
        found[index]? = none := List.getElem?_eq_none (by omega)
    rw [outside _ (length_eq _), outside]
    split
    · rw [List.length_set, length_eq]
    · exact length_eq _

theorem noteDepth_eq (lineCount : Nat) (entries : List (Nat × Nat)) (entry : Nat × Nat) :
    noteDepth (depthsOf lineCount entries) entry =
      some (depthsOf lineCount (entries ++ [entry])) := by
  obtain ⟨line, depth⟩ := entry
  have length_eq : (depthsOf lineCount entries).length = lineCount := by simp [depthsOf]
  rw [depthsOf_append, noteDepth]
  rcases line with _ | index
  · rfl
  · by_cases inside : index < lineCount
    · cases earlier : entries.lookup (index + 1) with
      | none => simp [length_eq, inside, getElem_depthsOf, earlier]
      | some found => simp [length_eq, inside, getElem_depthsOf, earlier]
    · simp [length_eq, inside]

/-- Recover the outline of some statements. -/
def outlineOf (lineCount : Nat) (statements : List (List Token)) : Attempt Outline := do
  let state ← (State.ofScan .initial).run statements
  let state ← state.closeAll (max lineCount 1)
  let lineDepths ← state.found.depths.reverse.foldlM noteDepth (List.replicate lineCount none)
  pure
    { units := state.found.units, external := state.found.external,
      topLevel := state.found.topLevel, lineDepths, errors := state.found.errors,
      misplacedUses := state.found.misplacedUses }

theorem foldlM_noteDepth (lineCount : Nat) (state : ScanState) :
    state.depths.reverse.foldlM noteDepth (List.replicate lineCount none) =
      some (state.lineDepths lineCount) := by
  have noted (front back : List (Nat × Nat)) :
      back.foldlM noteDepth (depthsOf lineCount front) =
        some (depthsOf lineCount (front ++ back)) := by
    induction back generalizing front with
    | nil => rw [List.append_nil]; rfl
    | cons entry rest ih =>
      rw [List.foldlM_cons, noteDepth_eq]
      exact (ih _).trans (by rw [List.append_assoc]; rfl)
  have none_eq : List.replicate lineCount (none : Option Nat) = depthsOf lineCount [] := by
    simp [depthsOf, List.map_const']
  rw [none_eq, noted]
  rfl

theorem outlineOf_eq (lineCount : Nat) {statements : List (List Token)}
    (filled : ∀ statement ∈ statements, statement ≠ []) :
    outlineOf lineCount statements = some (.ofStatements lineCount statements) := by
  have ran := run_eq .initial filled
  have closed := closeAll_eq (ScanState.initial.run statements) (max lineCount 1) _ rfl
  have depths : (State.ofScan ((ScanState.initial.run statements).closeAll (max lineCount 1)
      (ScanState.initial.run statements).frames.length)).found.depths.reverse.foldlM noteDepth
        (List.replicate lineCount none) = _ := foldlM_noteDepth lineCount _
  simp only [outlineOf, ran, closed, depths, Option.bind_eq_bind, Option.bind_some]
  rfl

end FortranStyle.Position
