import FortranStyle.Proofs.Nesting.EndStatement
import FortranStyle.Proofs.Nesting.OpenBlock

/-!
# What happens to the open blocks

Seen from the open blocks, a statement is an opener, a closer or neither.  An
opener opens a block; a closer closes the nearest block that it matches and pops
the ones above it; the end of the source pops what is left.  The history of a
scan lists these events, and the errors of a scan are read off its history.
-/

namespace FortranStyle

/-! ## Openers and closers -/

/-- What a statement means for the open blocks. -/
inductive Mark
  | opens (block : OpenBlock)
  /-- An END statement with its first token. -/
  | closes (closer : Statement.Closer) (token : Token)
deriving DecidableEq, Repr

namespace Statement

/-- The block that a statement opens inside a block of the given kind.  Nothing
opens in a derived type or an enumeration, and only procedures in an
interface. -/
def opened? (innermost : Option BlockKind) : List Token → Option OpenBlock
  | [] => none
  | first :: rest =>
      let tokens := first :: rest
      let programUnit := (unitHeading? tokens).map fun (kind, name) =>
        OpenBlock.mk first (.unit kind) name.text
      let procedure := (header? tokens).map fun header =>
        OpenBlock.mk first (.procedure header.kind) header.name.text
      let interface := (interfaceHeading? tokens).map fun block =>
        OpenBlock.mk block.token .interface (block.name.getD "")
      let derivedType := (typeHeading? tokens).map fun derivedType =>
        OpenBlock.mk first .derivedType derivedType.name
      let construct := (construct? tokens).map fun kind =>
        OpenBlock.mk first (.construct kind) kind.word
      match innermost with
      | some .derivedType => none
      | some (.construct .enumeration) => none
      | some .interface => procedure
      | _ => programUnit <|> procedure <|> interface <|> derivedType <|> construct

/-- What a statement means inside a block of the given kind.  An assignment and
a dividing statement mean nothing. -/
def mark? (innermost : Option BlockKind) (statement : List Token) : Option Mark :=
  match unlabelled statement with
  | [] => none
  | first :: rest =>
      if (assignmentTarget? (first :: rest)).isSome then none
      else
        match closer? (first :: rest) with
        | some closer => some (.closes closer first)
        | none =>
            if innermost.any (isDivider · (first :: rest)) then none
            else (opened? innermost (first :: rest)).map .opens

/-- A statement closes something when it is an END statement behind its label, and no
assignment. -/
theorem mark?_eq_closes_iff {innermost : Option BlockKind} {statement : List Token}
    {closer : Closer} {token : Token} :
    mark? innermost statement = some (.closes closer token) ↔
      IsEndStatement (unlabelled statement) closer ∧
        (unlabelled statement).head? = some token ∧
        (assignmentTarget? (unlabelled statement)).isSome = false := by
  rw [← closer?_eq_some_iff, mark?]
  cases unlabelled statement with
  | nil => simp [closer?]
  | cons first rest =>
    dsimp only
    cases target : (assignmentTarget? (first :: rest)).isSome with
    | true => simp
    | false =>
      rw [if_neg Bool.false_ne_true]
      cases closer? (first :: rest) with
      | none =>
        simp only [reduceCtorEq, false_and, iff_false]
        split <;> simp
      | some found => simp

end Statement

namespace OpenBlock

/-- Whether END with the given kind closes a block.  A bare END closes program
units and procedures. -/
def isClosedBy (kind : Option BlockKind) (block : OpenBlock) : Bool :=
  match kind with
  | none => block.kind.isScope
  | some kind => block.kind == kind

/-- The open blocks that END with the given kind can close.  Only a bare END and
the END of a program unit or procedure look past the innermost scope. -/
def inSight (kind : Option BlockKind) (blocks : List OpenBlock) : List OpenBlock :=
  if kind.any (!·.isScope) then blocks.takeWhile (!·.kind.isScope) else blocks

/-- The block that END with the given kind closes. -/
def target? (kind : Option BlockKind) (blocks : List OpenBlock) : Option OpenBlock :=
  (inSight kind blocks).find? (isClosedBy kind)

/-- The blocks above the one that END with the given kind closes. -/
def above (kind : Option BlockKind) (blocks : List OpenBlock) : List OpenBlock :=
  (inSight kind blocks).takeWhile (!isClosedBy kind ·)

/-- The name behind END, when it is not the name of the block. -/
def misnamed? (trailing : List Token) (block : OpenBlock) : Option Token :=
  trailing.head?.filter fun token =>
    block.kind.isScope && token.isName && token.lower != Text.lower block.name

end OpenBlock

/-! ## Events -/

/-- How an open block comes to its end. -/
inductive Fate
  /-- An END statement closes the block. -/
  | closed (closer : Statement.Closer)
  /-- An END statement on a line closes a block further out. -/
  | notClosedBefore (closer : Statement.Closer) (line : Nat)
  /-- The source ends. -/
  | neverClosed
deriving DecidableEq, Repr

/-- A statement that does not fit the open blocks. -/
inductive Misfit
  /-- An END statement closes nothing. -/
  | unmatched (closer : Statement.Closer) (token : Token)
  /-- The name behind END is not that of the block. -/
  | misnamed (block : OpenBlock) (token : Token)
  /-- A program unit starts inside another scope. -/
  | nested (kind : UnitKind) (block outer : OpenBlock)
deriving DecidableEq, Repr

/-- What happens to the open blocks. -/
inductive Event
  | opened (block : OpenBlock)
  | popped (block : OpenBlock) (fate : Fate)
  | reported (misfit : Misfit)
deriving DecidableEq, Repr

/-- The error about a block that is left open. -/
def Fate.error? (block : OpenBlock) : Fate → Option StructuralError
  | closed _ => none
  | notClosedBefore _ line =>
      some ⟨.notClosedBefore block.kind block.opener.line line, block.opener.line,
        block.opener.column⟩
  | neverClosed =>
      some ⟨.neverClosed block.kind block.name block.opener.line, block.opener.line,
        block.opener.column⟩

/-- The error about a statement that does not fit. -/
def Misfit.error : Misfit → StructuralError
  | unmatched closer token => ⟨.unmatchedEnd closer.kind, token.line, token.column⟩
  | misnamed block token =>
      ⟨.endNameMismatch block.kind token.text block.name, token.line, token.column⟩
  | nested kind block outer =>
      ⟨.nestedUnit kind block.name outer.kind outer.name, block.opener.line, block.opener.column⟩

namespace Event

/-- The error that an event leads to. -/
def error? : Event → Option StructuralError
  | opened _ => none
  | popped block fate => fate.error? block
  | reported misfit => some misfit.error

/-- The block that an event opens. -/
def opened? : Event → Option OpenBlock
  | opened block => some block
  | _ => none

/-- The block that an event pops and how it ends. -/
def popped? : Event → Option (OpenBlock × Fate)
  | popped block fate => some (block, fate)
  | _ => none

/-- A run of events is possible from some open blocks on and leads to others:
only the innermost block is ever popped. -/
inductive Leads : List OpenBlock → List Event → List OpenBlock → Prop
  | nil (blocks : List OpenBlock) : Leads blocks [] blocks
  | opened {block : OpenBlock} {blocks final : List OpenBlock} {events : List Event}
      (rest : Leads (block :: blocks) events final) :
      Leads blocks (.opened block :: events) final
  | popped {block : OpenBlock} {fate : Fate} {blocks final : List OpenBlock}
      {events : List Event} (rest : Leads blocks events final) :
      Leads (block :: blocks) (.popped block fate :: events) final
  | reported {misfit : Misfit} {blocks final : List OpenBlock} {events : List Event}
      (rest : Leads blocks events final) : Leads blocks (.reported misfit :: events) final

end Event

/-- The program unit among some open blocks that a new program unit would be
nested in. -/
def OpenBlock.nested? (block : OpenBlock) (blocks : List OpenBlock) : Option Misfit :=
  match block.kind, blocks.find? (·.kind.isScope) with
  | .unit kind, some outer => some (.nested kind block outer)
  | _, _ => none

/-- What an opener or a closer does to the open blocks. -/
def Mark.events (blocks : List OpenBlock) : Mark → List Event
  | opens block => ((block.nested? blocks).map .reported).toList ++ [.opened block]
  | closes closer token =>
      match OpenBlock.target? closer.kind blocks with
      | none => [.reported (.unmatched closer token)]
      | some block =>
          (OpenBlock.above closer.kind blocks).map
              (.popped · (.notClosedBefore closer token.line)) ++
            ((block.misnamed? closer.trailing).map (.reported <| .misnamed block ·)).toList ++
            [.popped block (.closed closer)]

namespace ScanState

/-- What a statement means in a state. -/
def mark? (state : ScanState) (statement : List Token) : Option Mark :=
  Statement.mark? (state.blocks.head?.map (·.kind)) statement

/-- What a statement does to the open blocks of a state. -/
def turn (state : ScanState) (statement : List Token) : List Event :=
  ((state.mark? statement).map (Mark.events state.blocks)).getD []

/-- What happens to the open blocks while statements are read and when the source
ends behind them. -/
def history (state : ScanState) : List (List Token) → List Event
  | [] => state.blocks.map (.popped · .neverClosed)
  | statement :: rest => state.turn statement ++ (state.step statement).history rest

end ScanState

/-! ## Runs of events -/

namespace Event

variable {blocks middle final : List OpenBlock} {events more : List Event}

theorem Leads.append (first : Leads blocks events middle) (second : Leads middle more final) :
    Leads blocks (events ++ more) final := by
  induction first with
  | nil _ => exact second
  | opened _ ih => exact .opened (ih second)
  | popped _ ih => exact .popped (ih second)
  | reported _ ih => exact .reported (ih second)

/-- Events decide which blocks are left. -/
theorem Leads.unique (leads : Leads blocks events final) (other : Leads blocks events middle) :
    middle = final := by
  induction leads with
  | nil _ =>
    cases other
    rfl
  | opened _ ih =>
    cases other with
    | opened other => exact ih other
  | popped _ ih =>
    cases other with
    | popped other => exact ih other
  | reported _ ih =>
    cases other with
    | reported other => exact ih other

/-- Popping blocks one after the other, the innermost one first. -/
theorem leads_popped (fate : Fate) (front back : List OpenBlock) :
    Leads (front ++ back) (front.map (.popped · fate)) back := by
  induction front with
  | nil => exact .nil back
  | cons block rest ih => exact .popped ih

/-- The blocks that are there at first and those that are opened are the blocks
that are popped and those that are left. -/
theorem Leads.perm (leads : Leads blocks events final) :
    (blocks ++ events.filterMap opened?).Perm
      ((events.filterMap popped?).map Prod.fst ++ final) := by
  induction leads with
  | nil blocks => simp
  | @opened block blocks final events _ ih =>
    rw [List.filterMap_cons_some (show opened? (.opened block) = some block from rfl),
      List.filterMap_cons_none (show popped? (.opened block) = none from rfl)]
    exact List.perm_middle.trans ih
  | @popped block fate blocks final events _ ih =>
    rw [List.filterMap_cons_none (show opened? (.popped block fate) = none from rfl),
      List.filterMap_cons_some (show popped? (.popped block fate) = some (block, fate) from rfl)]
    exact ih.cons block
  | @reported misfit blocks final events _ ih =>
    rw [List.filterMap_cons_none (show opened? (.reported misfit) = none from rfl),
      List.filterMap_cons_none (show popped? (.reported misfit) = none from rfl)]
    exact ih

end Event

/-! ## What an END statement can close -/

namespace OpenBlock

variable {kind : Option BlockKind} {block : OpenBlock} {blocks : List OpenBlock}

theorem isClosedBy_iff :
    block.isClosedBy kind = true ↔
      kind = some block.kind ∨ kind = none ∧ block.kind.isScope = true := by
  cases kind with
  | none => simp [isClosedBy]
  | some kind =>
    rw [isClosedBy, beq_iff_eq, eq_comm]
    simp

/-- A block that END with the given kind closes does not hide others from it. -/
theorem not_isScope_of_isClosedBy (closes : block.isClosedBy kind = true)
    (narrow : kind.any (!·.isScope) = true) : block.kind.isScope = false := by
  cases kind with
  | none => contradiction
  | some kind =>
    have kind_eq : block.kind = kind := eq_of_beq closes
    simpa [kind_eq] using narrow

theorem inSight_cons_of_hidden (blocks : List OpenBlock) (narrow : kind.any (!·.isScope) = true)
    (scope : block.kind.isScope = true) : inSight kind (block :: blocks) = [] := by
  simp [inSight, narrow, scope]

theorem inSight_cons (blocks : List OpenBlock)
    (clear : kind.any (!·.isScope) = true → block.kind.isScope = false) :
    inSight kind (block :: blocks) = block :: inSight kind blocks := by
  unfold inSight
  split
  · rename_i narrow
    simp [clear narrow]
  · rfl

/-- END closes the innermost block when it can. -/
theorem target?_cons_of_isClosedBy (blocks : List OpenBlock)
    (closes : block.isClosedBy kind = true) :
    target? kind (block :: blocks) = some block ∧ above kind (block :: blocks) = [] := by
  have sight_eq := inSight_cons blocks (not_isScope_of_isClosedBy closes)
  simp [target?, above, sight_eq, closes]

theorem isPrefix_inSight (kind : Option BlockKind) (blocks : List OpenBlock) :
    List.IsPrefix (inSight kind blocks) blocks := by
  unfold inSight
  split
  · exact List.takeWhile_prefix _
  · exact List.prefix_rfl

theorem isPrefix_above (kind : Option BlockKind) (blocks : List OpenBlock) :
    List.IsPrefix (above kind blocks) blocks :=
  (List.takeWhile_prefix _).trans (isPrefix_inSight kind blocks)

/-- The blocks above the one that END closes are the first of all. -/
theorem eq_above_append_of_target? (found : target? kind blocks = some block) :
    block.isClosedBy kind = true ∧ ∃ below, blocks = above kind blocks ++ block :: below := by
  obtain ⟨hidden, blocks_eq⟩ := isPrefix_inSight kind blocks
  obtain ⟨closes, before, behind, sight_eq, others⟩ := List.find?_eq_some_iff_append.mp found
  have above_eq : above kind blocks = before := by
    rw [above, sight_eq, List.takeWhile_append_of_pos others]
    simp [closes]
  refine ⟨closes, behind ++ hidden, ?_⟩
  calc
    blocks = inSight kind blocks ++ hidden := blocks_eq.symm
    _ = (before ++ block :: behind) ++ hidden := by rw [sight_eq]
    _ = above kind blocks ++ block :: (behind ++ hidden) := by simp [above_eq]

end OpenBlock

namespace Frames

theorem reach?_cons (kind : Option BlockKind) (frame : Frame) (rest : List Frame) :
    reach? kind (frame :: rest) =
      if frame.block.isClosedBy kind then some 0
      else if frame.block.kind.isScope && kind.any (!·.isScope) then none
      else (reach? kind rest).map (· + 1) := by
  rw [Frame.block_kind, ← Frame.isScope_eq]
  cases kind with
  | none =>
    rw [OpenBlock.isClosedBy, Frame.block_kind, ← Frame.isScope_eq]
    rfl
  | some kind => rfl

/-- The number of frames above the one that END closes is the number of blocks
above it. -/
theorem reach?_eq (kind : Option BlockKind) (frames : List Frame) :
    reach? kind frames = (OpenBlock.target? kind (frames.map Frame.block)).map
      fun _ => (OpenBlock.above kind (frames.map Frame.block)).length := by
  induction frames with
  | nil => simp [reach?, OpenBlock.target?, OpenBlock.inSight]
  | cons frame rest ih =>
    rw [reach?_cons, List.map_cons]
    cases closes : frame.block.isClosedBy kind with
    | true =>
      obtain ⟨target_eq, above_eq⟩ :=
        OpenBlock.target?_cons_of_isClosedBy (rest.map Frame.block) closes
      simp [target_eq, above_eq]
    | false =>
      cases hidden : frame.block.kind.isScope && kind.any (!·.isScope) with
      | true =>
        obtain ⟨scope, narrow⟩ := Bool.and_eq_true_iff.mp hidden
        have sight_eq := OpenBlock.inSight_cons_of_hidden (rest.map Frame.block) narrow scope
        simp [OpenBlock.target?, sight_eq]
      | false =>
        have clear (narrow : kind.any (!·.isScope) = true) : frame.block.kind.isScope = false := by
          simpa [narrow] using hidden
        have sight_eq := OpenBlock.inSight_cons (rest.map Frame.block) clear
        rw [ih]
        simp [OpenBlock.target?, OpenBlock.above, sight_eq, closes, Function.comp_def]

end Frames

end FortranStyle
