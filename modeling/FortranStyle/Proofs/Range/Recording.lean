import FortranStyle.Proofs.Nesting.Account
import FortranStyle.Proofs.Range.Closing

/-!
# Ranges and recorded statements

Statements that open and close nothing are recorded in the block they stand in and
change none of the ranges.  A statement that opens a block starts a range at its
line.
-/

namespace FortranStyle

/-! ## Nodes -/

/-- What a program unit holds that has a range. -/
def ProgramUnit.SameSpan (before after : ProgramUnit) : Prop :=
  after.startLine = before.startLine ∧ after.procedures = before.procedures ∧
    after.interfaces = before.interfaces

namespace ProgramUnit

theorem sameSpan_grant (node : ProgramUnit) (visibility : Option Visibility) (name : String)
    (token : Token) : node.SameSpan (node.grant visibility name token) := by
  rcases visibility with _ | _ | _
  · exact ⟨rfl, rfl, rfl⟩
  all_goals
    simp only [grant]
    split <;> exact ⟨rfl, rfl, rfl⟩

theorem SameSpan.trans {first second third : ProgramUnit} (left : first.SameSpan second)
    (right : second.SameSpan third) : first.SameSpan third :=
  ⟨right.1.trans left.1, right.2.1.trans left.2.1, right.2.2.trans left.2.2⟩

theorem sameSpan_declare (node : ProgramUnit) (declaration : Declaration) :
    node.SameSpan (node.declare declaration) := by
  unfold declare
  cases node.isModule with
  | true => exact sameSpan_grant node ..
  | false => exact ⟨rfl, rfl, rfl⟩

theorem sameSpan_recordAccess (node : ProgramUnit) (visibility : Visibility) (word : Token)
    (rest : List Token) : node.SameSpan (node.recordAccess visibility word rest) := by
  unfold recordAccess
  split
  · exact ⟨rfl, rfl, rfl⟩
  · induction Bracket.items rest generalizing node with
    | nil => exact ⟨rfl, rfl, rfl⟩
    | cons item items ih =>
      cases item with
      | nil => exact ih node
      | cons token more => exact (sameSpan_grant node ..).trans (ih _)

end ProgramUnit

namespace ScopeNode

/-- A change of a node that leaves all ranges as they are. -/
def KeepsSpan (f : ScopeNode → ScopeNode) : Prop :=
  ∀ node nested, (f node).span nested = node.span nested

theorem keepsSpan_mapSpecification (f : Specification → Specification) :
    KeepsSpan (mapSpecification f) := by
  intro node nested
  cases node <;> rfl

theorem keepsSpan_mapUnit {f : ProgramUnit → ProgramUnit}
    (same : ∀ node : ProgramUnit, node.SameSpan (f node)) : KeepsSpan (mapUnit f) := by
  intro node nested
  cases node with
  | programUnit node =>
    obtain ⟨startLine_eq, procedures_eq, interfaces_eq⟩ := same node
    simp [mapUnit, span, startLine_eq, procedures_eq, interfaces_eq]
  | procedure node => rfl

theorem keepsSpan_mapProcedure {f : Procedure → Procedure}
    (same : ∀ node, (f node).startLine = node.startLine ∧ (f node).children = node.children ∧
      (f node).interfaces = node.interfaces) :
    KeepsSpan (mapProcedure f) := by
  intro node nested
  cases node with
  | programUnit node => rfl
  | procedure node =>
    obtain ⟨startLine_eq, children_eq, interfaces_eq⟩ := same node
    simp [mapProcedure, span, startLine_eq, children_eq, interfaces_eq]

theorem keepsSpan_declare (constants : List String) (declarations : List Declaration) :
    KeepsSpan fun node => declarations.foldl (ScopeNode.declare constants) node := by
  induction declarations with
  | nil => exact fun _ _ => rfl
  | cons declaration rest ih =>
    intro node nested
    refine (ih (node.declare constants declaration) nested).trans ?_
    cases node with
    | programUnit node =>
      obtain ⟨startLine_eq, procedures_eq, interfaces_eq⟩ := node.sameSpan_declare declaration
      simp [declare, span, startLine_eq, procedures_eq, interfaces_eq]
    | procedure node => rfl

end ScopeNode

/-! ## Statements that open and close nothing -/

namespace ScanState

/-- Nothing has closed, and what is open holds what it held. -/
structure SameSpans (before after : ScanState) : Prop where
  spans : after.frames.map Frame.span = before.frames.map Frame.span
  units : after.units = before.units
  external : after.external = before.external

variable {state : ScanState} {now : Nat}

theorem SameSpans.refl (state : ScanState) : SameSpans state state :=
  ⟨rfl, rfl, rfl⟩

theorem SameSpans.trans {first second third : ScanState} (left : SameSpans first second)
    (right : SameSpans second third) : SameSpans first third :=
  ⟨right.spans.trans left.spans, right.units.trans left.units, right.external.trans left.external⟩

theorem SameSpans.settled {after : ScanState} (same : SameSpans state after)
    (settled : state.Settled now) : after.Settled now := by
  constructor
  · rw [same.spans, same.external]
    exact settled.spans
  · rw [same.units]
    exact settled.complete

section Recording

variable (state : ScanState) (tokens : List Token)

theorem sameSpans_mapScope {f : Scope → Scope}
    (same : ∀ scope, (f scope).node = scope.node ∧ (f scope).nested = scope.nested) :
    SameSpans state (state.mapFrames (Frames.mapScope f)) :=
  ⟨Frames.map_mapScope (fun scope => by simp [Frame.span, same scope]) _, rfl, rfl⟩

theorem sameSpans_mapNode {f : ScopeNode → ScopeNode} (keeps : ScopeNode.KeepsSpan f) :
    SameSpans state (state.mapNode f) :=
  ⟨Frames.map_mapScope (fun scope => keeps scope.node scope.nested) _, rfl, rfl⟩

theorem sameSpans_mapUnit {f : ProgramUnit → ProgramUnit}
    (same : ∀ node : ProgramUnit, node.SameSpan (f node)) :
    SameSpans state (state.mapNode (·.mapUnit f)) :=
  sameSpans_mapNode state (ScopeNode.keepsSpan_mapUnit same)

theorem sameSpans_mapProcedure {f : Procedure → Procedure}
    (same : ∀ node, (f node).startLine = node.startLine ∧ (f node).children = node.children ∧
      (f node).interfaces = node.interfaces) :
    SameSpans state (state.mapProcedure f) :=
  sameSpans_mapNode state (ScopeNode.keepsSpan_mapProcedure same)

theorem sameSpans_recordExecutable : SameSpans state (state.recordExecutable tokens) := by
  have ended :=
    sameSpans_mapScope state (f := fun scope => { scope with inSpecification := false })
    fun _ => ⟨rfl, rfl⟩
  unfold recordExecutable
  cases Statement.action? tokens with
  | none => exact ended
  | some action => exact ended.trans (sameSpans_mapProcedure _ fun _ => ⟨rfl, rfl, rfl⟩)

theorem sameSpans_recordUse : SameSpans state (state.recordUse tokens) := by
  unfold recordUse
  split
  · exact .refl state
  · split
    · exact sameSpans_mapNode state (ScopeNode.keepsSpan_mapSpecification _)
    · exact ⟨rfl, rfl, rfl⟩

theorem sameSpans_recordImplicit : SameSpans state (state.recordImplicit tokens) := by
  unfold recordImplicit
  split
  · exact sameSpans_mapNode state (ScopeNode.keepsSpan_mapSpecification _)
  · exact .refl state

theorem sameSpans_recordAccess (visibility : Visibility) (word : Token) (rest : List Token) :
    SameSpans state (state.recordAccess visibility word rest) := by
  apply sameSpans_mapUnit
  intro node
  split
  · exact node.sameSpan_recordAccess ..
  · exact ⟨rfl, rfl, rfl⟩

theorem sameSpans_recordIntent : SameSpans state (state.recordIntent tokens) := by
  simp only [recordIntent]
  split
  · exact sameSpans_mapProcedure state fun _ => ⟨rfl, rfl, rfl⟩
  · exact .refl state

theorem sameSpans_recordContains (token : Token) :
    SameSpans state (state.recordContains token) := by
  unfold recordContains
  split
  · rename_i scope rest frames_eq
    have same := ScopeNode.keepsSpan_mapUnit
      (f := fun node => { node with containsLine := some token.line })
      (fun _ => ⟨rfl, rfl, rfl⟩) scope.node scope.nested
    exact ⟨by simp [frames_eq, Frame.span, same], rfl, rfl⟩
  · exact .refl state

theorem sameSpans_recordMember : SameSpans state (state.recordMember tokens) := by
  simp only [recordMember]
  split
  · rename_i frames_eq
    split
    · exact ⟨by simp [frames_eq, Frame.span], rfl, rfl⟩
    · exact .refl state
  · exact .refl state

theorem sameSpans_recordEnumerators : SameSpans state (state.recordEnumerators tokens) := by
  unfold recordEnumerators
  split
  · refine ⟨?_, rfl, rfl⟩
    simp only [mapFrames]
    generalize state.frames = frames
    fun_induction Frames.mapProgramUnit _ frames with
    | case1 => rfl
    | case2 => rfl
    | case3 frame rest other ih => rw [List.map_cons, ih, List.map_cons]
  · exact .refl state

theorem sameSpans_recordPlain : SameSpans state (state.recordPlain tokens) := by
  cases tokens with
  | nil => exact .refl state
  | cons first rest =>
    simp only [recordPlain]
    split_ifs
    · exact sameSpans_recordUse state _
    · exact sameSpans_recordImplicit state _
    · exact sameSpans_mapNode state (ScopeNode.keepsSpan_declare _ _)
    · exact sameSpans_recordAccess state ..
    · exact sameSpans_recordAccess state ..
    · exact sameSpans_recordIntent state _
    · exact sameSpans_mapNode state (ScopeNode.keepsSpan_mapSpecification _)
    · exact sameSpans_mapProcedure state fun _ => ⟨rfl, rfl, rfl⟩
    · exact .refl state
    · exact sameSpans_recordExecutable state _

end Recording

/-! ## Statements that open a block -/

section Opening

variable {frame : Frame} {first : Token} {rest : List Token}

theorem Settled.push_scope (settled : state.Settled now) (now_pos : 1 ≤ now)
    (span_eq : frame.span = .scope now [] [] []) : (state.push frame).Settled now := by
  refine ⟨?_, settled.complete⟩
  rw [push, List.map_cons, span_eq]
  exact .scope now_pos le_rfl (.nil now now) (List.forall_mem_nil _) (.nil now)
    (List.forall_mem_nil _) settled.spans

theorem Settled.push_interface (settled : state.Settled now)
    (span_eq : frame.span = .interface []) : (state.push frame).Settled now := by
  refine ⟨?_, settled.complete⟩
  rw [push, List.map_cons, span_eq]
  exact .interface le_rfl (.nil now now) (.nil now) settled.spans

theorem Settled.push_other (settled : state.Settled now) (span_eq : frame.span = .other) :
    (state.push frame).Settled now := by
  refine ⟨?_, settled.complete⟩
  rw [push, List.map_cons, span_eq]
  exact .other settled.spans

/-- What stands in no other block is only listed once more. -/
theorem Settled.withTopLevel (settled : state.Settled now) (topLevel : List Heading) :
    { state with topLevel }.Settled now :=
  ⟨settled.spans, settled.complete⟩

theorem Settled.openUnit? (settled : state.Settled first.line) (line_pos : 1 ≤ first.line) :
    ∀ after ∈ state.openUnit? (first :: rest), after.Settled first.line := by
  intro after opened
  obtain ⟨⟨kind, name⟩, heading, rfl⟩ := Option.map_eq_some_iff.mp opened
  dsimp only
  split
  · exact (settled.report _ _).push_scope line_pos rfl
  · exact (settled.withTopLevel _).push_scope line_pos rfl

theorem Settled.openProcedure? (settled : state.Settled first.line) (line_pos : 1 ≤ first.line) :
    ∀ after ∈ state.openProcedure? (first :: rest), after.Settled first.line := by
  intro after opened
  obtain ⟨header, heading, rfl⟩ := Option.map_eq_some_iff.mp opened
  dsimp only
  split
  · exact (settled.withTopLevel _).push_scope line_pos rfl
  · exact settled.push_scope line_pos rfl

theorem Settled.openInterface? (settled : state.Settled now) (tokens : List Token) :
    ∀ after ∈ state.openInterface? tokens, after.Settled now := by
  intro after opened
  obtain ⟨block, heading, rfl⟩ := Option.map_eq_some_iff.mp opened
  exact settled.push_interface
    (congrArg Span.interface (Statement.bodies_of_interfaceHeading? heading))

theorem Settled.openType? (settled : state.Settled now) (tokens : List Token) :
    ∀ after ∈ state.openType? tokens, after.Settled now := by
  intro after opened
  cases tokens with
  | nil => contradiction
  | cons first rest =>
    obtain ⟨derivedType, heading, rfl⟩ := Option.map_eq_some_iff.mp opened
    refine Settled.push_other ?_ rfl
    refine (sameSpans_mapUnit state fun node => ?_).settled settled
    have listed : node.SameSpan { node with derivedTypes := node.derivedTypes ++ [derivedType] } :=
      ⟨rfl, rfl, rfl⟩
    exact listed.trans (ProgramUnit.sameSpan_grant ..)

theorem Settled.openConstruct? (settled : state.Settled now) (tokens : List Token) :
    ∀ after ∈ state.openConstruct? tokens, after.Settled now := by
  intro after opened
  cases tokens with
  | nil => contradiction
  | cons first rest =>
    obtain ⟨kind, heading, rfl⟩ := Option.map_eq_some_iff.mp opened
    dsimp only
    split
    · exact settled.push_other rfl
    · exact ((sameSpans_recordExecutable state _).settled settled).push_other rfl

end Opening

/-! ## One statement -/

theorem settled_getD {after? : Option ScanState} {plain : ScanState}
    (opens : ∀ after ∈ after?, after.Settled now) (records : plain.Settled now) :
    (after?.getD plain).Settled now := by
  cases after? with
  | none => exact records
  | some after => exact opens after rfl

theorem settled_orElse {first? second? : Option ScanState}
    (first : ∀ after ∈ first?, after.Settled now) (second : ∀ after ∈ second?, after.Settled now) :
    ∀ after ∈ (first? <|> second?), after.Settled now := by
  cases first? with
  | none => exact second
  | some state => exact first

theorem Settled.recordInside {first : Token} {rest : List Token}
    (settled : state.Settled first.line) (line_pos : 1 ≤ first.line) :
    (state.recordInside (first :: rest)).Settled first.line := by
  have procedure : ∀ after ∈ state.openProcedure? (first :: rest), after.Settled first.line :=
    settled.openProcedure? line_pos
  unfold ScanState.recordInside
  split
  · exact settled
  · exact (sameSpans_recordEnumerators state _).settled settled
  · exact settled_getD procedure ((sameSpans_recordMember state _).settled settled)
  · refine settled_getD ?_ ((sameSpans_recordPlain state _).settled settled)
    exact settled_orElse (settled.openUnit? line_pos) <| settled_orElse procedure <|
      settled_orElse (settled.openInterface? _) <| settled_orElse (settled.openType? _) <|
        settled.openConstruct? _

/-- A statement below the last line read settles what it closes, down to its own
last line. -/
theorem Settled.step {statement : List Token} {last : Nat} (settled : state.Settled now)
    (now_pos : 1 ≤ now) (now_le : now ≤ last)
    (between : ∀ token ∈ statement, now ≤ token.line ∧ token.line ≤ last)
    (ordered : statement.Pairwise fun first second => first.line ≤ second.line) :
    (state.step statement).Settled last := by
  have part := Statement.unlabelled_sublist statement
  unfold ScanState.step
  split
  · rename_i label others first rest unlabelled_eq
    rw [unlabelled_eq] at part
    have first_between := between first (part.subset List.mem_cons_self)
    have depth_noted (depth : Nat) : SameSpans state (state.recordDepth label depth) :=
      ⟨rfl, rfl, rfl⟩
    dsimp only
    split
    · have recorded :=
        (depth_noted state.depth).trans (sameSpans_recordExecutable _ (first :: rest))
      exact recorded.settled (settled.mono now_le)
    · split
      · rename_i closer closes
        have lastToken_mem : rest.getLastD first ∈ first :: rest := List.getLastD_mem_cons
        have upright : first.line ≤ (rest.getLastD first).line := by
          rcases List.mem_cons.mp lastToken_mem with same | later
          · rw [same]
          · exact List.rel_of_pairwise_cons (ordered.sublist part) later
        have closed := settled.close closer first_between.1 upright
        exact Settled.mono ⟨closed.spans, closed.complete⟩
          (between _ (part.subset lastToken_mem)).2
      · split
        · have divided := (depth_noted (state.depth - 1)).settled (settled.mono now_le)
          split
          · exact (sameSpans_recordContains _ first).settled divided
          · exact divided
        · have here := (depth_noted state.depth).settled (settled.mono first_between.1)
          have recorded :
              ((state.recordDepth label state.depth).recordInside (first :: rest)).Settled
                first.line := here.recordInside (now_pos.trans first_between.1)
          exact recorded.mono first_between.2
  · exact settled.mono now_le

end ScanState

end FortranStyle
