import FortranStyle.Proofs.Nesting.OpenBlock
import FortranStyle.Proofs.Range.Successive

/-!
# Ranges and open blocks

A procedure takes its place in the block around it when it closes, at the last
line read so far, and it started below everything that has closed in that block
before.  So what an open block holds lies above the start of the next program
unit, procedure or interface block that is open inside it.

That is an invariant of the open blocks from the inside out.  Bodies of interface
blocks are held back until their block closes; then they may reach down to the
last line read, in a program unit or procedure whose own procedures do not.
-/

namespace FortranStyle

/-- What an open block holds that has a range. -/
inductive Span
  | scope (startLine : Nat) (procedures : List Procedure) (interfaces : List Interface)
      (nested : List ProgramUnit)
  | interface (bodies : List Procedure)
  | other

/-- What a program unit or procedure holds, with program units inside it. -/
def ScopeNode.span (nested : List ProgramUnit) : ScopeNode → Span
  | programUnit node => .scope node.startLine node.procedures node.interfaces nested
  | procedure node => .scope node.startLine node.children node.interfaces nested

/-- What an open block holds. -/
def Frame.span : Frame → Span
  | scope inner => inner.node.span inner.nested
  | interface _ block => .interface block.bodies
  | derivedType .. => .other
  | construct .. => .other

/-- What has closed in some open blocks, innermost first, lies above a line; in
the outermost place it lies in the whole source.  Nothing reaches below the last
line read. -/
inductive Settled (now : Nat) (external : List Procedure) : Nat → List Span → Prop
  | outermost {high : Nat} (successive : Successive 1 high external)
      (all : AllRanged now external []) : Settled now external high []
  | scope {startLine high : Nat} {procedures : List Procedure} {interfaces : List Interface}
      {nested : List ProgramUnit} {outer : List Span} (start_pos : 1 ≤ startLine)
      (start_le : startLine ≤ high) (successive : Successive startLine high procedures)
      (bodies : ∀ block ∈ interfaces, Successive startLine now block.bodies)
      (all : AllRanged now procedures interfaces) (complete : ∀ unit ∈ nested, unit.Complete now)
      (settled : Settled now external startLine outer) :
      Settled now external high (.scope startLine procedures interfaces nested :: outer)
  | interface {low high : Nat} {bodies : List Procedure} {outer : List Span} (low_le : low ≤ high)
      (successive : Successive low high bodies) (all : AllRanged now bodies [])
      (settled : Settled now external low outer) :
      Settled now external high (.interface bodies :: outer)
  | other {high : Nat} {outer : List Span} (settled : Settled now external high outer) :
      Settled now external high (.other :: outer)

/-- Reading on settles nothing anew. -/
theorem Settled.mono {now now' high high' : Nat} {external : List Procedure} {spans : List Span}
    (settled : Settled now external high spans) (now_le : now ≤ now') (high_le : high ≤ high') :
    Settled now' external high' spans := by
  induction settled generalizing high' with
  | outermost successive all => exact .outermost (successive.mono le_rfl high_le) (all.mono now_le)
  | scope start_pos start_le successive bodies all complete settled ih =>
    exact .scope start_pos (start_le.trans high_le) (successive.mono le_rfl high_le)
      (fun block member => (bodies block member).mono le_rfl now_le) (all.mono now_le)
      (fun unit member => (complete unit member).mono now_le) (ih le_rfl)
  | interface low_le successive all settled ih =>
    exact .interface (low_le.trans high_le) (successive.mono le_rfl high_le) (all.mono now_le)
      (ih le_rfl)
  | other settled ih => exact .other (ih high_le)

/-! ## What closes takes its place -/

namespace Frames

variable {now high : Nat} {external : List Procedure} {frames : List Frame}

/-- Program units that have ended take their place in the innermost scope. -/
theorem settled_addNested {units : List ProgramUnit} (complete : ∀ unit ∈ units, unit.Complete now)
    (settled : Settled now external high (frames.map Frame.span)) :
    Settled now external high
      ((mapScope (fun scope => { scope with nested := scope.nested ++ units }) frames).map
        Frame.span) := by
  induction frames generalizing high with
  | nil => exact settled
  | cons frame rest ih =>
    cases frame with
    | scope inner =>
      obtain ⟨opener, node, inSpecification, nested⟩ := inner
      cases node <;>
      · cases settled with
        | scope start_pos start_le successive bodies all ended settled =>
          exact .scope start_pos start_le successive bodies all
            (List.forall_mem_append.mpr ⟨ended, complete⟩) settled
    | interface opener block =>
      cases settled with
      | interface low_le successive all settled =>
        exact .interface low_le successive all (ih settled)
    | derivedType _ _ =>
      cases settled with
      | other settled => exact .other (ih settled)
    | construct _ _ =>
      cases settled with
      | other settled => exact .other (ih settled)

/-- An interface block that closes takes its place in the innermost scope. -/
theorem settled_addInterface {block : Interface} (successive : Successive high now block.bodies)
    (all : AllRanged now block.bodies [])
    (settled : Settled now external high (frames.map Frame.span)) :
    Settled now external high ((mapNode (·.addInterface block) frames).map Frame.span) := by
  induction frames generalizing high with
  | nil => exact settled
  | cons frame rest ih =>
    cases frame with
    | scope inner =>
      obtain ⟨opener, node, inSpecification, nested⟩ := inner
      cases node <;>
      · cases settled with
        | scope start_pos start_le inScope bodies allInScope complete settled =>
          have added := successive.mono start_le le_rfl
          exact .scope start_pos start_le inScope
            (List.forall_mem_append.mpr ⟨bodies, List.forall_mem_singleton.mpr added⟩)
            (allInScope.addInterface all) complete settled
    | interface opener other =>
      cases settled with
      | interface low_le inOther allInOther settled =>
        exact .interface low_le inOther allInOther (ih (successive.mono low_le le_rfl) settled)
    | derivedType _ _ =>
      cases settled with
      | other settled => exact .other (ih successive settled)
    | construct _ _ =>
      cases settled with
      | other settled => exact .other (ih successive settled)

/-- A procedure that closes takes its place in the block around it, or outside
all blocks. -/
theorem settled_attach? {procedure : Procedure} (ranged : procedure.Ranged now)
    (all : AllRanged now procedure.children procedure.interfaces)
    (behind : high ≤ procedure.startLine)
    (settled : Settled now external high (frames.map Frame.span)) :
    match attach? procedure frames with
    | some attached => Settled now external now (attached.map Frame.span)
    | none => Settled now (external ++ [procedure]) now (frames.map Frame.span) := by
  have upright := ranged.start_le
  have above := ranged.end_le
  induction frames generalizing high with
  | nil =>
    cases settled with
    | outermost successive allExternal =>
      exact .outermost (successive.concat ranged.start_pos behind upright above)
        (allExternal.addProcedure ranged all)
  | cons frame rest ih =>
    have passed (settled : Settled now external high (rest.map Frame.span))
        (plain : frame.span = .other) :
        match (attach? procedure rest).map (frame :: ·) with
        | some attached => Settled now external now (attached.map Frame.span)
        | none =>
          Settled now (external ++ [procedure]) now (frame.span :: rest.map Frame.span) := by
      have inner := ih behind settled
      cases attached : attach? procedure rest with
      | none =>
        rw [attached] at inner
        rw [Option.map_none, plain]
        exact .other inner
      | some frames =>
        rw [attached] at inner
        rw [Option.map_some]
        dsimp only
        rw [List.map_cons, plain]
        exact .other inner
    cases frame with
    | scope inner =>
      obtain ⟨opener, node, inSpecification, nested⟩ := inner
      cases node <;>
      · cases settled with
        | scope start_pos start_le successive bodies allInScope complete settled =>
          exact .scope start_pos ((start_le.trans behind).trans (upright.trans above))
            (successive.concat (start_le.trans behind) behind upright above) bodies
            (allInScope.addProcedure ranged all) complete settled
    | interface opener block =>
      cases settled with
      | interface low_le successive allInBlock settled =>
        exact .interface (low_le.trans (behind.trans (upright.trans above)))
          (successive.concat (low_le.trans behind) behind upright above)
          (allInBlock.addProcedure ranged all) settled
    | derivedType _ _ =>
      cases settled with
      | other settled => exact passed settled rfl
    | construct _ _ =>
      cases settled with
      | other settled => exact passed settled rfl

end Frames

/-! ## States -/

namespace ScanState

/-- What has closed has ranges, down to the last line read. -/
structure Settled (now : Nat) (state : ScanState) : Prop where
  spans : FortranStyle.Settled now state.external now (state.frames.map Frame.span)
  complete : ∀ unit ∈ state.units, unit.Complete now

variable {state : ScanState} {now now' : Nat}

theorem Settled.mono (settled : state.Settled now) (le : now ≤ now') : state.Settled now' :=
  ⟨settled.spans.mono le le, fun unit member => (settled.complete unit member).mono le⟩

theorem settled_addUnits {units : List ProgramUnit} (complete : ∀ unit ∈ units, unit.Complete now)
    (settled : state.Settled now) : (state.addUnits units).Settled now := by
  unfold addUnits
  split
  · exact ⟨Frames.settled_addNested complete settled.spans, settled.complete⟩
  · exact ⟨settled.spans, List.forall_mem_append.mpr ⟨settled.complete, complete⟩⟩

/-- Closing the innermost block settles it. -/
theorem Settled.closeTop (settled : state.Settled now) : (state.closeTop now).Settled now := by
  obtain ⟨frames, units, external, topLevel, misplacedUses, errors, depths⟩ := state
  obtain ⟨spans, complete⟩ := settled
  rcases frames with _ | ⟨frame, rest⟩
  · exact ⟨spans, complete⟩
  cases frame with
  | scope inner =>
    obtain ⟨opener, node, inSpecification, nested⟩ := inner
    cases node with
    | programUnit node =>
      cases spans with
      | scope start_pos start_le successive bodies all ended outer =>
        have finished := ProgramUnit.complete_finish ⟨successive, bodies⟩ all start_pos start_le
        exact settled_addUnits (List.forall_mem_cons.mpr ⟨finished, ended⟩)
          ⟨outer.mono le_rfl start_le, complete⟩
    | procedure node =>
      cases spans with
      | scope start_pos start_le successive bodies all ended outer =>
        have ranged := Procedure.ranged_finish ⟨successive, bodies⟩ start_pos start_le
        have attached := Frames.settled_attach? ranged all le_rfl outer
        apply settled_addUnits ended
        unfold addProcedure
        split <;> rename_i found <;> rw [found] at attached
        · exact ⟨attached, complete⟩
        · exact ⟨attached, complete⟩
  | interface opener block =>
    cases spans with
    | interface low_le successive all outer =>
      exact ⟨(Frames.settled_addInterface successive all outer).mono le_rfl low_le, complete⟩
  | derivedType _ _ =>
    cases spans with
    | other outer => exact ⟨outer, complete⟩
  | construct _ _ =>
    cases spans with
    | other outer => exact ⟨outer, complete⟩

theorem Settled.report (settled : state.Settled now) (cause : StructuralCause) (token : Token) :
    (state.report cause token).Settled now :=
  ⟨settled.spans, settled.complete⟩

theorem Settled.closeAbove (settled : state.Settled now) (count : Nat) :
    (state.closeAbove now count).Settled now := by
  induction count generalizing state with
  | zero => exact settled
  | succ count ih =>
    unfold ScanState.closeAbove
    split
    · exact settled
    · exact ih (settled.report _ _).closeTop

theorem Settled.closeAll (settled : state.Settled now) (count : Nat) :
    (state.closeAll now count).Settled now := by
  induction count generalizing state with
  | zero => exact settled
  | succ count ih =>
    unfold ScanState.closeAll
    split
    · exact settled
    · exact ih (settled.report _ _).closeTop

/-- A closing statement settles what it closes: blocks left open inside end where
it starts, and its own block where it ends. -/
theorem Settled.close (settled : state.Settled now) (closer : Statement.Closer)
    {first last : Token} (from_le : now ≤ first.line) (upright : first.line ≤ last.line) :
    (state.close closer first last).Settled last.line := by
  unfold ScanState.close
  split
  · exact (settled.mono (from_le.trans upright)).report _ _
  · rename_i count reached
    have above := ((settled.mono from_le).closeAbove count).mono upright
    apply Settled.closeTop
    split
    · exact above
    · split
      · exact above.report _ _
      · exact above

end ScanState

end FortranStyle
