import FortranStyle.Proofs.Nesting.Event

/-!
# A scan follows its history

Each statement changes the open blocks as its events say, and adds exactly the
errors of these events.  By induction on the statements a whole scan follows its
history, which ends without open blocks.
-/

namespace FortranStyle

namespace ScanState

/-- Events lead from one state to another, and the new errors are theirs. -/
structure Follows (before : ScanState) (events : List Event) (after : ScanState) : Prop where
  leads : Event.Leads before.blocks events after.blocks
  errors : after.errors = before.errors ++ events.filterMap Event.error?

section Steps

variable {first second third : ScanState} {events more : List Event}

theorem Keeps.follows (keeps : Keeps first second) : Follows first [] second where
  leads := keeps.blocks ▸ .nil _
  errors := by simp [keeps.errors]

theorem Follows.append (left : Follows first events second) (right : Follows second more third) :
    Follows first (events ++ more) third where
  leads := left.leads.append right.leads
  errors := by simp [right.errors, left.errors]

theorem Follows.keeps (left : Follows first events second) (right : Keeps second third) :
    Follows first events third := by
  have both := left.append right.follows
  rwa [List.append_nil] at both

theorem Keeps.then_follows (left : Keeps first second) (right : Follows second events third) :
    Follows first events third :=
  left.follows.append right

end Steps

variable (state : ScanState)

variable {state} in
theorem blocks_of_frames {frame : Frame} {rest : List Frame}
    (frames_eq : state.frames = frame :: rest) :
    state.blocks = frame.block :: rest.map Frame.block := by
  rw [blocks, frames_eq, List.map_cons]

variable {state} in
/-- Pushing a frame opens its block. -/
theorem Keeps.push {announced : ScanState} (keeps : Keeps state announced) {frame : Frame}
    {block : OpenBlock} (block_eq : frame.block = block) :
    Follows state [.opened block] (announced.push frame) where
  leads := by
    subst block_eq
    rw [← keeps.blocks]
    exact .opened (.nil _)
  errors := keeps.errors.trans (List.append_nil _).symm

theorem follows_report (misfit : Misfit) (token : Token) {cause : StructuralCause}
    (error_eq : misfit.error = ⟨cause, token.line, token.column⟩) :
    Follows state [.reported misfit] (state.report cause token) where
  leads := .reported (.nil _)
  errors := by simp [Event.error?, error_eq]

variable {state} in
/-- Closing the innermost block pops it. -/
theorem follows_closeTop {frame : Frame} {rest : List Frame}
    (frames_eq : state.frames = frame :: rest)
    (closer : Statement.Closer) (endLine : Nat) :
    Follows state [.popped frame.block (.closed closer)] (state.closeTop endLine) where
  leads := by
    rw [blocks_closeTop, blocks_of_frames frames_eq]
    exact .popped (.nil _)
  errors := by simp [Event.error?, Fate.error?]

variable {state} in
/-- Reporting the innermost block and closing it pops it. -/
theorem follows_report_closeTop {frame : Frame} {rest : List Frame}
    (frames_eq : state.frames = frame :: rest) (fate : Fate) {cause : StructuralCause}
    (error_eq : fate.error? frame.block = some ⟨cause, frame.opener.line, frame.opener.column⟩)
    (endLine : Nat) :
    Follows state [.popped frame.block fate]
      ((state.report cause frame.opener).closeTop endLine) where
  leads := by
    rw [blocks_closeTop, blocks_report, blocks_of_frames frames_eq]
    exact .popped (.nil _)
  errors := by simp [Event.error?, error_eq]

/-! ## Closing statements -/

/-- The blocks above the one that END closes are popped with an error each. -/
theorem follows_closeAbove (closer : Statement.Closer) (line count : Nat) :
    Follows state ((state.blocks.take count).map (.popped · (.notClosedBefore closer line)))
      (state.closeAbove line count) := by
  induction count generalizing state with
  | zero => exact (Keeps.refl state).follows
  | succ count ih =>
    cases frames_eq : state.frames with
    | nil =>
      simp only [closeAbove, blocks, frames_eq, List.map_nil, List.take_nil]
      exact (Keeps.refl state).follows
    | cons frame rest =>
      have top := follows_report_closeTop frames_eq (.notClosedBefore closer line) rfl line
      have others := top.append (ih _)
      rw [blocks_closeTop, blocks_report] at others
      simp only [closeAbove, frames_eq]
      simpa [blocks, frames_eq] using others

/-- What the end of the source leaves open is popped with an error each. -/
theorem follows_closeAll (lastLine : Nat) :
    Follows state (state.blocks.map (.popped · .neverClosed))
      (state.closeAll lastLine state.depth) := by
  have general (count : Nat) (state : ScanState) :
      Follows state ((state.blocks.take count).map (.popped · .neverClosed))
        (state.closeAll lastLine count) := by
    induction count generalizing state with
    | zero => exact (Keeps.refl state).follows
    | succ count ih =>
      cases frames_eq : state.frames with
      | nil =>
        simp only [closeAll, blocks, frames_eq, List.map_nil, List.take_nil]
        exact (Keeps.refl state).follows
      | cons frame rest =>
        have top := follows_report_closeTop frames_eq .neverClosed rfl lastLine
        have others := top.append (ih _)
        rw [blocks_closeTop, blocks_report] at others
        simp only [closeAll, frames_eq]
        simpa [blocks, frames_eq] using others
  have all := general state.depth state
  rwa [List.take_of_length_le (by simp [blocks, depth])] at all

theorem endMismatch?_eq (frame : Frame) (trailing : List Token) :
    endMismatch? frame trailing = frame.block.misnamed? trailing := by
  cases trailing with
  | nil => rfl
  | cons token rest =>
    simp [endMismatch?, OpenBlock.misnamed?, Frame.isScope_eq, Option.filter]

variable {state} in
/-- When the blocks above have been closed, the block that END matches is the
innermost one. -/
theorem frames_closeAbove {kind : Option BlockKind} {block : OpenBlock}
    (found : OpenBlock.target? kind state.blocks = some block) (line : Nat) :
    ∃ frame rest, frame.block = block ∧
      (state.closeAbove line (OpenBlock.above kind state.blocks).length).frames =
        frame :: rest := by
  obtain ⟨-, below, blocks_eq⟩ := OpenBlock.eq_above_append_of_target? found
  have popped := (follows_closeAbove state ⟨kind, []⟩ line
    (OpenBlock.above kind state.blocks).length).leads
  generalize OpenBlock.above kind state.blocks = above at blocks_eq popped ⊢
  rw [blocks_eq, List.take_left] at popped
  have reached := (Event.leads_popped _ above (block :: below)).unique popped
  exact List.map_eq_cons_iff.mp reached |>.imp fun _ found =>
    found.imp fun _ split => ⟨split.2.1, split.1⟩

/-- A closing statement closes the block that it matches. -/
theorem follows_close (closer : Statement.Closer) (first last : Token) :
    Follows state ((Mark.closes closer first).events state.blocks)
      (state.close closer first last) := by
  have reach_eq := Frames.reach?_eq closer.kind state.frames
  cases found : OpenBlock.target? closer.kind state.blocks with
  | none =>
    rw [← blocks, found] at reach_eq
    simp only [close, Mark.events, found, reach_eq]
    exact follows_report state _ first rfl
  | some block =>
    rw [← blocks, found] at reach_eq
    have popped := follows_closeAbove state closer first.line
      (OpenBlock.above closer.kind state.blocks).length
    rw [← List.prefix_iff_eq_take.mp (OpenBlock.isPrefix_above closer.kind state.blocks)] at popped
    obtain ⟨frame, rest, rfl, frames_eq⟩ := frames_closeAbove found first.line
    simp only [close, Mark.events, found, reach_eq, Option.map_some]
    generalize state.closeAbove first.line _ = reached at popped frames_eq ⊢
    rw [frames_eq]
    dsimp only
    rw [endMismatch?_eq, List.append_assoc]
    apply popped.append
    cases frame.block.misnamed? closer.trailing with
    | none => exact follows_closeTop frames_eq closer last.line
    | some token =>
      have named := follows_report reached (.misnamed frame.block token) token rfl
      exact named.append (follows_closeTop (by exact frames_eq) closer last.line)

/-! ## Opening statements -/

theorem events_opens_of_not_unit {block : OpenBlock} (noUnit : ∀ kind, block.kind ≠ .unit kind)
    (blocks : List OpenBlock) : (Mark.opens block).events blocks = [.opened block] := by
  have none_eq : block.nested? blocks = none := by
    unfold OpenBlock.nested?
    split
    · rename_i kind _ kind_eq _
      exact absurd kind_eq (noUnit kind)
    · rfl
  rw [Mark.events, none_eq]
  rfl

theorem scope?_eq (frames : List Frame) :
    (frames.map Frame.block).find? (·.kind.isScope) =
      (Frames.scope? frames).map fun scope => (Frame.scope scope).block := by
  induction frames with
  | nil => rfl
  | cons frame rest ih =>
    cases frame with
    | scope scope =>
      have isScope : (Frame.scope scope).block.kind.isScope = true :=
        (Frame.scope scope).isScope_eq.symm
      rw [List.map_cons, List.find?_cons, isScope]
      rfl
    | interface _ _ => exact ih
    | derivedType _ _ => exact ih
    | construct _ _ => exact ih

/-- What a statement that starts with the given token adds when it opens a
block. -/
def Opens (state : ScanState) (block? : Option OpenBlock) (after? : Option ScanState) : Prop :=
  match block?, after? with
  | some block, some after => Follows state ((Mark.opens block).events state.blocks) after
  | none, none => True
  | _, _ => False

variable (first : Token) (rest : List Token)

theorem opens_openUnit? :
    state.Opens ((Statement.unitHeading? (first :: rest)).map fun (kind, name) =>
      ⟨first, .unit kind, name.text⟩) (state.openUnit? (first :: rest)) := by
  unfold openUnit?
  cases Statement.unitHeading? (first :: rest) with
  | none => trivial
  | some heading =>
    obtain ⟨kind, name⟩ := heading
    have scope_eq := scope?_eq state.frames
    simp only [Opens, Option.map_some, Mark.events, OpenBlock.nested?, blocks, scope_eq]
    cases Frames.scope? state.frames with
    | none =>
      apply Keeps.push
      · exact ⟨rfl, rfl⟩
      · rfl
    | some outer =>
      have told := follows_report state
        (.nested kind ⟨first, .unit kind, name.text⟩ (Frame.scope outer).block) first rfl
      apply told.append
      apply Keeps.push
      · exact .refl _
      · rfl

theorem opens_openProcedure? :
    state.Opens ((Statement.header? (first :: rest)).map fun header =>
        ⟨first, .procedure header.kind, header.name.text⟩)
      (state.openProcedure? (first :: rest)) := by
  unfold openProcedure?
  cases Statement.header? (first :: rest) with
  | none => trivial
  | some header =>
    simp only [Opens, Option.map_some]
    rw [events_opens_of_not_unit (by rintro kind ⟨⟩)]
    apply Keeps.push
    · split
      · exact ⟨rfl, rfl⟩
      · exact .refl state
    · rfl

theorem opens_openInterface? :
    state.Opens ((Statement.interfaceHeading? (first :: rest)).map fun block =>
      ⟨block.token, .interface, block.name.getD ""⟩) (state.openInterface? (first :: rest)) := by
  unfold openInterface?
  cases Statement.interfaceHeading? (first :: rest) with
  | none => trivial
  | some block =>
    simp only [Opens, Option.map_some]
    rw [events_opens_of_not_unit (by rintro kind ⟨⟩)]
    apply Keeps.push
    · exact .refl state
    · rfl

theorem opens_openType? :
    state.Opens ((Statement.typeHeading? (first :: rest)).map fun derivedType =>
      ⟨first, .derivedType, derivedType.name⟩) (state.openType? (first :: rest)) := by
  unfold openType?
  cases Statement.typeHeading? (first :: rest) with
  | none => trivial
  | some derivedType =>
    simp only [Opens, Option.map_some]
    rw [events_opens_of_not_unit (by rintro kind ⟨⟩)]
    apply Keeps.push
    · apply keeps_mapNode
      apply ScopeNode.keeps_mapUnit
      intro node
      exact ⟨ProgramUnit.grant_kind .., ProgramUnit.grant_token ..⟩
    · rfl

theorem opens_openConstruct? :
    state.Opens ((Statement.construct? (first :: rest)).map fun kind =>
      ⟨first, .construct kind, kind.word⟩) (state.openConstruct? (first :: rest)) := by
  unfold openConstruct?
  cases Statement.construct? (first :: rest) with
  | none => trivial
  | some kind =>
    simp only [Opens, Option.map_some]
    rw [events_opens_of_not_unit (by rintro kind ⟨⟩)]
    apply Keeps.push
    · split
      · exact .refl state
      · exact keeps_recordExecutable state _
    · rfl

variable {state} in
/-- The first opening statement that fits counts. -/
theorem Opens.orElse {block? otherBlock? : Option OpenBlock} {after? other? : Option ScanState}
    (opens : state.Opens block? after?) (other : state.Opens otherBlock? other?) :
    state.Opens (block? <|> otherBlock?) (after? <|> other?) := by
  rcases block? with _ | block <;> rcases after? with _ | after
  · exact other
  · exact opens.elim
  · exact opens.elim
  · exact opens

variable {state} in
theorem Opens.getD {block? : Option OpenBlock} {after? : Option ScanState}
    (opens : state.Opens block? after?) {plain : ScanState} (keeps : Keeps state plain) :
    Follows state ((block?.map fun block => (Mark.opens block).events state.blocks).getD [])
      (after?.getD plain) := by
  rcases block? with _ | block <;> rcases after? with _ | after
  · exact keeps.follows
  · exact opens.elim
  · exact opens.elim
  · exact opens

theorem head?_kind : state.frames.head?.map Frame.kind = state.blocks.head?.map (·.kind) := by
  cases frames_eq : state.frames <;> simp [blocks, frames_eq]

/-- A statement that is neither an assignment nor a closing or dividing statement
opens the block that its first words say. -/
theorem follows_recordInside :
    Follows state (((Statement.opened? (state.blocks.head?.map (·.kind)) (first :: rest)).map
        fun block => (Mark.opens block).events state.blocks).getD [])
      (state.recordInside (first :: rest)) := by
  have construct := opens_openConstruct? state first rest
  have derivedType := (opens_openType? state first rest).orElse construct
  have interface := (opens_openInterface? state first rest).orElse derivedType
  have procedure := (opens_openProcedure? state first rest).orElse interface
  have programUnit := (opens_openUnit? state first rest).orElse procedure
  simp only [recordInside, Statement.opened?, head?_kind]
  generalize state.blocks.head?.map (·.kind) = innermost
  rcases innermost with _ | kind | kind | _ | _ | kind
  · exact programUnit.getD (keeps_recordPlain state _)
  · exact programUnit.getD (keeps_recordPlain state _)
  · exact programUnit.getD (keeps_recordPlain state _)
  · exact (opens_openProcedure? state first rest).getD (keeps_recordMember state _)
  · exact (Keeps.refl state).follows
  · cases kind with
    | enumeration => exact (keeps_recordEnumerators state _).follows
    | _ => exact programUnit.getD (keeps_recordPlain state _)

/-! ## One statement and all statements -/

/-- A statement changes the open blocks as its events say and adds their
errors. -/
theorem follows_step (statement : List Token) :
    Follows state (state.turn statement) (state.step statement) := by
  simp only [turn, mark?, Statement.mark?, step]
  cases unlabelled_eq : Statement.unlabelled statement with
  | nil =>
    cases statement with
    | nil => exact (Keeps.refl state).follows
    | cons label others => exact (Keeps.refl state).follows
  | cons first rest =>
    cases statement with
    | nil => contradiction
    | cons label others =>
      dsimp only
      split
      · exact ((keeps_recordDepth state label _).trans (keeps_recordExecutable _ _)).follows
      · cases Statement.closer? (first :: rest) with
        | some closer =>
          exact (follows_close state closer first _).keeps (keeps_recordDepth _ _ _)
        | none =>
          dsimp only
          rw [head?_kind]
          split
          · have divided := keeps_recordDepth state label (state.depth - 1)
            split
            · exact (divided.trans (keeps_recordContains _ first)).follows
            · exact divided.follows
          · have inside := follows_recordInside (state.recordDepth label state.depth) first rest
            simp only [Option.map_map]
            exact (keeps_recordDepth state label _).then_follows inside

/-- The history of a scan pops every open block and every block it opens. -/
theorem leads_history (statements : List (List Token)) :
    Event.Leads state.blocks (state.history statements) [] := by
  induction statements generalizing state with
  | nil =>
    have popped := Event.leads_popped .neverClosed state.blocks []
    rwa [List.append_nil] at popped
  | cons statement rest ih => exact (follows_step state statement).leads.append (ih _)

/-- A scan follows its history to its end. -/
theorem follows_run (statements : List (List Token)) (lastLine : Nat) :
    Follows state (state.history statements)
      ((state.run statements).closeAll lastLine (state.run statements).depth) := by
  induction statements generalizing state with
  | nil => exact follows_closeAll state lastLine
  | cons statement rest ih => exact (follows_step state statement).append (ih _)

end ScanState

end FortranStyle
