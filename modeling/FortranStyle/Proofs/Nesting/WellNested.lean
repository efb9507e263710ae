import FortranStyle.Proofs.Nesting.History

/-!
# Properly nested sources

The openers and closers of a source form a word.  A scan finds no error exactly
when this word is properly nested: every block is closed by an END of its kind
with nothing left open inside, the names behind END agree for program units and
procedures, and no program unit starts inside another scope.
-/

namespace FortranStyle

/-- An END statement fits a block: it closes blocks of the kind, and for a
program unit or procedure the name behind END, if there is one, is that of the
block. -/
def OpenBlock.Fits (block : OpenBlock) (closer : Statement.Closer) : Prop :=
  block.isClosedBy closer.kind = true ∧ block.misnamed? closer.trailing = none

/-- A properly nested word of openers and closers, inside or outside of a program
unit or procedure. -/
inductive WellNested : (inScope : Bool) → List Mark → Prop
  | nil {inScope : Bool} : WellNested inScope []
  | block {inScope : Bool} {block : OpenBlock} {inner rest : List Mark}
      {closer : Statement.Closer} {token : Token}
      (outside : inScope = true → ∀ kind, block.kind ≠ .unit kind)
      (inside : WellNested (inScope || block.kind.isScope) inner) (fits : block.Fits closer)
      (behind : WellNested inScope rest) :
      WellNested inScope (.opens block :: inner ++ .closes closer token :: rest)

/-! ## Reading a word with a stack -/

namespace Mark

/-- A word of openers and closers closes the open blocks one after the other, the
innermost first, and all that it opens itself. -/
inductive Accepts : List OpenBlock → List Mark → Prop
  | nil : Accepts [] []
  | opens {block : OpenBlock} {blocks : List OpenBlock} {rest : List Mark}
      (alone : block.nested? blocks = none) (accepts : Accepts (block :: blocks) rest) :
      Accepts blocks (.opens block :: rest)
  | closes {block : OpenBlock} {blocks : List OpenBlock} {rest : List Mark}
      {closer : Statement.Closer} {token : Token} (fits : block.Fits closer)
      (accepts : Accepts blocks rest) : Accepts (block :: blocks) (.closes closer token :: rest)

theorem accepts_opens_iff {block : OpenBlock} {blocks : List OpenBlock} {rest : List Mark} :
    Accepts blocks (.opens block :: rest) ↔
      block.nested? blocks = none ∧ Accepts (block :: blocks) rest := by
  constructor
  · rintro (_ | ⟨alone, accepts⟩)
    exact ⟨alone, accepts⟩
  · rintro ⟨alone, accepts⟩
    exact .opens alone accepts

theorem accepts_closes_iff {closer : Statement.Closer} {token : Token} {blocks : List OpenBlock}
    {rest : List Mark} :
    Accepts blocks (.closes closer token :: rest) ↔
      ∃ block outer, blocks = block :: outer ∧ block.Fits closer ∧ Accepts outer rest := by
  constructor
  · rintro (_ | _ | ⟨fits, accepts⟩)
    exact ⟨_, _, rfl, fits, accepts⟩
  · rintro ⟨block, outer, rfl, fits, accepts⟩
    exact .closes fits accepts

/-- Whether one of some open blocks is a program unit or procedure. -/
def inScope (blocks : List OpenBlock) : Bool :=
  blocks.any (·.kind.isScope)

theorem inScope_cons (block : OpenBlock) (blocks : List OpenBlock) :
    inScope (block :: blocks) = (inScope blocks || block.kind.isScope) :=
  Bool.or_comm ..

/-- A block stands alone unless it is a program unit inside a scope. -/
theorem nested?_eq_none_iff {block : OpenBlock} {blocks : List OpenBlock} :
    block.nested? blocks = none ↔
      (inScope blocks = true → ∀ kind, block.kind ≠ .unit kind) := by
  have scope_iff : inScope blocks = true ↔ (blocks.find? (·.kind.isScope)).isSome = true := by
    simp [inScope]
  rw [scope_iff]
  unfold OpenBlock.nested?
  cases blocks.find? (·.kind.isScope) with
  | none => simp
  | some outer => cases block.kind <;> simp

/-- A properly nested word is read without touching the blocks around it. -/
theorem accepts_append_of_wellNested {within : Bool} {word : List Mark}
    (nested : WellNested within word) {blocks : List OpenBlock} {rest : List Mark}
    (within_eq : inScope blocks = within) (accepts : Accepts blocks rest) :
    Accepts blocks (word ++ rest) := by
  induction nested generalizing blocks rest with
  | nil => exact accepts
  | @block within block inner behind closer token outside _ fits _ innerIH behindIH =>
    subst within_eq
    rw [List.append_assoc, List.cons_append]
    apply Accepts.opens
    · exact nested?_eq_none_iff.mpr outside
    · rw [List.cons_append]
      apply innerIH
      · exact inScope_cons block blocks
      · exact .closes fits (behindIH rfl accepts)

/-- A word takes open blocks to their ends: it is a properly nested word, then
an END of the innermost block, and so on for the blocks around it. -/
def Finishes : List OpenBlock → List Mark → Prop
  | [], word => WellNested false word
  | block :: blocks, word =>
      ∃ inner closer token rest, word = inner ++ .closes closer token :: rest ∧
        WellNested (inScope (block :: blocks)) inner ∧ block.Fits closer ∧ Finishes blocks rest

theorem Accepts.finishes {blocks : List OpenBlock} {word : List Mark}
    (accepts : Accepts blocks word) : Finishes blocks word := by
  induction accepts with
  | nil => exact .nil
  | @opens block blocks rest alone _ ih =>
    obtain ⟨inner, closer, token, behind, rfl, inside, fits, finishes⟩ := ih
    rw [inScope_cons] at inside
    have outside := nested?_eq_none_iff.mp alone
    cases blocks with
    | nil => exact .block outside inside fits finishes
    | cons outer blocks =>
      obtain ⟨more, outerCloser, outerToken, last, rfl, after, outerFits, outerFinishes⟩ :=
        finishes
      refine ⟨.opens block :: inner ++ .closes closer token :: more, outerCloser, outerToken,
        last, ?_, .block outside inside fits after, outerFits, outerFinishes⟩
      simp
  | closes fits _ ih => exact ⟨[], _, _, _, rfl, .nil, fits, ih⟩

/-- A word is accepted without open blocks exactly when it is properly nested. -/
theorem accepts_nil_iff {word : List Mark} : Accepts [] word ↔ WellNested false word := by
  constructor
  · exact Accepts.finishes
  · intro nested
    have accepts := accepts_append_of_wellNested nested
      (show inScope [] = false from rfl) .nil
    rwa [List.append_nil] at accepts

end Mark

/-! ## Scans without errors -/

namespace ScanState

/-- The openers and closers of some statements, as they are read from a state
on. -/
def marks (state : ScanState) : List (List Token) → List Mark
  | [] => []
  | statement :: rest => (state.mark? statement).toList ++ (state.step statement).marks rest

end ScanState

namespace Mark

/-- An opener leads to no error exactly when its block stands alone. -/
theorem errors_opens {block : OpenBlock} {blocks : List OpenBlock} :
    ((opens block).events blocks).filterMap Event.error? = [] ↔ block.nested? blocks = none := by
  cases nested : block.nested? blocks <;> simp [events, nested, Event.error?]

/-- A closer leads to no error exactly when it fits the innermost block. -/
theorem errors_closes {closer : Statement.Closer} {token : Token} {blocks : List OpenBlock} :
    ((closes closer token).events blocks).filterMap Event.error? = [] ↔
      ∃ block rest, blocks = block :: rest ∧ block.Fits closer := by
  cases found : OpenBlock.target? closer.kind blocks with
  | none =>
    simp only [events, found, List.filterMap_cons, Event.error?, reduceCtorEq, false_iff]
    rintro ⟨block, rest, rfl, closed, -⟩
    rw [(OpenBlock.target?_cons_of_isClosedBy _ closed).1] at found
    contradiction
  | some block =>
    obtain ⟨closed, below, blocks_eq⟩ := OpenBlock.eq_above_append_of_target? found
    have errors_iff : ((closes closer token).events blocks).filterMap Event.error? = [] ↔
        OpenBlock.above closer.kind blocks = [] ∧ block.misnamed? closer.trailing = none := by
      simp only [events, found, List.filterMap_append, List.filterMap_map, List.append_eq_nil_iff]
      cases block.misnamed? closer.trailing <;>
        simp [Event.error?, Fate.error?, Function.comp_def, List.eq_nil_iff_forall_not_mem]
    rw [errors_iff]
    constructor
    · rintro ⟨above_eq, named⟩
      rw [above_eq] at blocks_eq
      exact ⟨block, below, blocks_eq, closed, named⟩
    · rintro ⟨top, rest, rfl, topClosed, named⟩
      obtain ⟨target_eq, above_eq⟩ :=
        OpenBlock.target?_cons_of_isClosedBy rest topClosed
      rw [found, Option.some.injEq] at target_eq
      exact ⟨above_eq, target_eq ▸ named⟩

end Mark

namespace ScanState

variable (state : ScanState)

/-- A statement without a mark leaves the open blocks as they are. -/
theorem blocks_step_of_mark?_none {statement : List Token}
    (none_eq : state.mark? statement = none) : (state.step statement).blocks = state.blocks := by
  have leads := (state.follows_step statement).leads
  rw [turn, none_eq] at leads
  exact (Event.Leads.nil state.blocks).unique leads

theorem blocks_step_of_opens {statement : List Token} {block : OpenBlock}
    (mark_eq : state.mark? statement = some (.opens block))
    (alone : block.nested? state.blocks = none) :
    (state.step statement).blocks = block :: state.blocks := by
  have leads := (state.follows_step statement).leads
  simp only [turn, mark_eq, Option.map_some, Option.getD_some, Mark.events, alone] at leads
  exact (Event.Leads.opened (.nil _)).unique leads

theorem blocks_step_of_closes {statement : List Token} {block : OpenBlock}
    {blocks : List OpenBlock} {closer : Statement.Closer} {token : Token}
    (mark_eq : state.mark? statement = some (.closes closer token))
    (blocks_eq : state.blocks = block :: blocks) (fits : block.Fits closer) :
    (state.step statement).blocks = blocks := by
  have leads := (state.follows_step statement).leads
  obtain ⟨target_eq, above_eq⟩ := OpenBlock.target?_cons_of_isClosedBy blocks fits.1
  simp only [turn, mark_eq, Option.map_some, Option.getD_some, Mark.events, blocks_eq, target_eq,
    above_eq, fits.2] at leads
  exact (Event.Leads.popped (.nil _)).unique leads

/-- The history of a scan has no errors exactly when the openers and closers end
all open blocks and those they open. -/
theorem errors_history_eq_nil_iff (statements : List (List Token)) :
    (state.history statements).filterMap Event.error? = [] ↔
      Mark.Accepts state.blocks (state.marks statements) := by
  induction statements generalizing state with
  | nil =>
    simp only [history, marks, List.filterMap_map]
    constructor
    · intro errors_eq
      cases blocks_eq : state.blocks with
      | nil => exact .nil
      | cons block blocks =>
        rw [blocks_eq] at errors_eq
        contradiction
    · intro accepts
      cases blocks_eq : state.blocks with
      | nil => rfl
      | cons block blocks =>
        rw [blocks_eq] at accepts
        contradiction
  | cons statement rest ih =>
    rw [history, marks, List.filterMap_append, List.append_eq_nil_iff, ih]
    cases mark_eq : state.mark? statement with
    | none =>
      rw [state.blocks_step_of_mark?_none mark_eq]
      simp [turn, mark_eq]
    | some mark =>
      simp only [turn, mark_eq, Option.map_some, Option.getD_some]
      cases mark with
      | opens block =>
        rw [Mark.errors_opens]
        refine Iff.trans ?_ Mark.accepts_opens_iff.symm
        apply and_congr_right
        intro alone
        rw [state.blocks_step_of_opens mark_eq alone]
        rfl
      | closes closer token =>
        rw [Mark.errors_closes]
        refine Iff.trans ?_ Mark.accepts_closes_iff.symm
        constructor
        · rintro ⟨⟨block, blocks, blocks_eq, fits⟩, accepts⟩
          rw [state.blocks_step_of_closes mark_eq blocks_eq fits] at accepts
          exact ⟨block, blocks, blocks_eq, fits, accepts⟩
        · rintro ⟨block, blocks, blocks_eq, fits, accepts⟩
          refine ⟨⟨block, blocks, blocks_eq, fits⟩, ?_⟩
          rwa [state.blocks_step_of_closes mark_eq blocks_eq fits]

end ScanState

end FortranStyle
