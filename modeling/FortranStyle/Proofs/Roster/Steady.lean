import FortranStyle.Proofs.Roster.Member

/-!
# What recording leaves as it is

Most statements record something about the program unit or procedure they stand in.
Which blocks are open, what they hold, which specification parts are over and which
USE statements have been met is not touched by that.
-/

namespace FortranStyle

/-! ## Steady change -/

/-- A program unit or procedure in which more is recorded, but no USE. -/
inductive ScopeNode.Steady : ScopeNode → ScopeNode → Prop
  | programUnit {node node' : ProgramUnit} (own_eq : node'.own = node.own)
      (procedures_eq : node'.procedures = node.procedures)
      (interfaces_eq : node'.interfaces = node.interfaces) :
      Steady (.programUnit node) (.programUnit node')
  | procedure {node node' : Procedure} (own_eq : node'.own = node.own)
      (children_eq : node'.children = node.children)
      (interfaces_eq : node'.interfaces = node.interfaces) :
      Steady (.procedure node) (.procedure node')

/-- An open block in which more is recorded. -/
inductive Frame.Steady : Frame → Frame → Prop
  | scope (opener : Token) {node node' : ScopeNode} (steady : node.Steady node')
      (inSpecification : Bool) (nested : List ProgramUnit) :
      Steady (.scope ⟨opener, node, inSpecification, nested⟩)
        (.scope ⟨opener, node', inSpecification, nested⟩)
  | interface (opener : Token) {block block' : Interface}
      (bodies_eq : block'.bodies = block.bodies) :
      Steady (.interface opener block) (.interface opener block')
  | derivedType (opener : Token) (name : String) :
      Steady (.derivedType opener name) (.derivedType opener name)
  | construct (opener : Token) (kind : ConstructKind) :
      Steady (.construct opener kind) (.construct opener kind)

/-- A state in which more is recorded about the scopes that are open. -/
structure ScanState.Steady (before after : ScanState) : Prop where
  frames : List.Forall₂ Frame.Steady before.frames after.frames
  units_eq : after.units = before.units
  external_eq : after.external = before.external
  misplacedUses_eq : after.misplacedUses = before.misplacedUses

namespace ScopeNode

theorem Steady.refl (node : ScopeNode) : node.Steady node := by
  cases node with
  | programUnit node => exact .programUnit rfl rfl rfl
  | procedure node => exact .procedure rfl rfl rfl

theorem Steady.trans {first second third : ScopeNode} (front : first.Steady second)
    (back : second.Steady third) : first.Steady third := by
  cases front with
  | programUnit own_eq procedures_eq interfaces_eq =>
    cases back with
    | programUnit own_eq' procedures_eq' interfaces_eq' =>
      exact .programUnit (own_eq'.trans own_eq) (procedures_eq'.trans procedures_eq)
        (interfaces_eq'.trans interfaces_eq)
  | procedure own_eq children_eq interfaces_eq =>
    cases back with
    | procedure own_eq' children_eq' interfaces_eq' =>
      exact .procedure (own_eq'.trans own_eq) (children_eq'.trans children_eq)
        (interfaces_eq'.trans interfaces_eq)

theorem steady_mapUnit {f : ProgramUnit → ProgramUnit}
    (steady : ∀ node, (programUnit node).Steady (.programUnit (f node))) (node : ScopeNode) :
    node.Steady (node.mapUnit f) := by
  cases node with
  | programUnit node => exact steady node
  | procedure node => exact .refl _

theorem steady_mapProcedure {f : Procedure → Procedure}
    (steady : ∀ node, (procedure node).Steady (.procedure (f node))) (node : ScopeNode) :
    node.Steady (node.mapProcedure f) := by
  cases node with
  | programUnit node => exact .refl _
  | procedure node => exact steady node

theorem steady_mapSpecification {f : Specification → Specification}
    (uses_eq : ∀ specification, (f specification).uses = specification.uses) (node : ScopeNode) :
    node.Steady (node.mapSpecification f) := by
  cases node with
  | programUnit node =>
    refine .programUnit ?_ rfl rfl
    simp only [ProgramUnit.own, uses_eq]
  | procedure node =>
    refine .procedure ?_ rfl rfl
    simp only [Procedure.own, uses_eq]
    rfl

theorem steady_grant (visibility : Option Visibility) (name : String) (token : Token)
    (node : ProgramUnit) :
    (programUnit node).Steady (.programUnit (node.grant visibility name token)) := by
  simp only [ProgramUnit.grant]
  split
  · split
    · exact .refl _
    · exact .programUnit rfl rfl rfl
  · split
    · exact .refl _
    · exact .programUnit rfl rfl rfl
  · exact .refl _

theorem steady_declare (constants : List String) (declarations : List Declaration)
    (node : ScopeNode) : node.Steady (declarations.foldl (ScopeNode.declare constants) node) := by
  induction declarations generalizing node with
  | nil => exact .refl node
  | cons declaration rest ih =>
    rw [List.foldl_cons]
    refine Steady.trans ?_ (ih _)
    cases node with
    | programUnit node =>
      simp only [declare, ProgramUnit.declare]
      split
      · have granted :=
          steady_grant declaration.visibility declaration.name declaration.token node
        refine granted.trans ?_
        exact .programUnit rfl rfl rfl
      · exact .programUnit rfl rfl rfl
    | procedure node => exact .procedure rfl rfl rfl

theorem steady_recordAccess (visibility : Visibility) (word : Token) (rest : List Token)
    (node : ProgramUnit) :
    (programUnit node).Steady (.programUnit (node.recordAccess visibility word rest)) := by
  unfold ProgramUnit.recordAccess
  split
  · exact .programUnit rfl rfl rfl
  · generalize Bracket.items rest = items
    induction items generalizing node with
    | nil => exact .refl _
    | cons item more ih =>
      rw [List.foldl_cons]
      refine Steady.trans ?_ (ih _)
      split
      · exact .refl _
      · exact steady_grant _ _ _ node

end ScopeNode

theorem Frame.Steady.refl (frame : Frame) : frame.Steady frame := by
  cases frame with
  | scope scope => exact .scope _ (.refl _) _ _
  | interface opener block => exact .interface opener rfl
  | derivedType opener name => exact .derivedType opener name
  | construct opener kind => exact .construct opener kind

theorem Frame.Steady.trans {first second third : Frame} (front : first.Steady second)
    (back : second.Steady third) : first.Steady third := by
  cases front with
  | scope opener steady inSpecification nested =>
    cases back with
    | scope _ steady' => exact .scope opener (steady.trans steady') inSpecification nested
  | interface opener bodies_eq =>
    cases back with
    | interface _ bodies_eq' => exact .interface opener (bodies_eq'.trans bodies_eq)
  | derivedType opener name => exact back
  | construct opener kind => exact back

namespace Frames

theorem steady_refl (frames : List Frame) : List.Forall₂ Frame.Steady frames frames :=
  List.forall₂_same.mpr fun frame _ => .refl frame

theorem steady_trans {first second third : List Frame}
    (front : List.Forall₂ Frame.Steady first second)
    (back : List.Forall₂ Frame.Steady second third) : List.Forall₂ Frame.Steady first third := by
  induction front generalizing third with
  | nil => exact back
  | cons steady _ ih =>
    cases back with
    | cons steady' back => exact .cons (steady.trans steady') (ih back)

/-- What recording leaves as it is in each frame, it leaves in all. -/
theorem map_of_steady {α : Type} {see : Frame → α} {frames frames' : List Frame}
    (same : ∀ frame frame', Frame.Steady frame frame' → see frame' = see frame)
    (steady : List.Forall₂ Frame.Steady frames frames') : frames'.map see = frames.map see := by
  induction steady with
  | nil => rfl
  | cons steady _ ih => rw [List.map_cons, List.map_cons, same _ _ steady, ih]

theorem steady_mapNode {f : ScopeNode → ScopeNode}
    (steady : ∀ node, ScopeNode.Steady node (f node))
    (frames : List Frame) : List.Forall₂ Frame.Steady frames (mapNode f frames) := by
  induction frames with
  | nil => exact .nil
  | cons frame rest ih =>
    cases frame with
    | scope scope => exact .cons (.scope _ (steady scope.node) _ _) (steady_refl rest)
    | interface _ _ => exact .cons (.refl _) ih
    | derivedType _ _ => exact .cons (.refl _) ih
    | construct _ _ => exact .cons (.refl _) ih

theorem steady_mapProgramUnit {f : ProgramUnit → ProgramUnit}
    (steady : ∀ node, (ScopeNode.programUnit node).Steady (.programUnit (f node)))
    (frames : List Frame) : List.Forall₂ Frame.Steady frames (mapProgramUnit f frames) := by
  induction frames with
  | nil => exact .nil
  | cons frame rest ih =>
    cases frame with
    | scope scope =>
      obtain ⟨opener, node, inSpecification, nested⟩ := scope
      cases node with
      | programUnit node => exact .cons (.scope _ (steady node) _ _) (steady_refl rest)
      | procedure node => exact .cons (.refl _) ih
    | interface _ _ => exact .cons (.refl _) ih
    | derivedType _ _ => exact .cons (.refl _) ih
    | construct _ _ => exact .cons (.refl _) ih

end Frames

namespace ScanState

section Steady

variable (state : ScanState) {before after : ScanState}

theorem Steady.refl : state.Steady state :=
  ⟨Frames.steady_refl _, rfl, rfl, rfl⟩

theorem Steady.trans {middle : ScanState} (front : before.Steady middle)
    (back : middle.Steady after) : before.Steady after where
  frames := Frames.steady_trans front.frames back.frames
  units_eq := back.units_eq.trans front.units_eq
  external_eq := back.external_eq.trans front.external_eq
  misplacedUses_eq := back.misplacedUses_eq.trans front.misplacedUses_eq

theorem Steady.push (steady : before.Steady after) (frame : Frame) :
    (before.push frame).Steady (after.push frame) :=
  ⟨.cons (.refl frame) steady.frames, steady.units_eq, steady.external_eq,
    steady.misplacedUses_eq⟩

theorem steady_recordDepth (token : Token) (depth : Nat) :
    state.Steady (state.recordDepth token depth) :=
  ⟨Frames.steady_refl _, rfl, rfl, rfl⟩

theorem steady_mapNode {f : ScopeNode → ScopeNode}
    (steady : ∀ node, ScopeNode.Steady node (f node)) : state.Steady (state.mapNode f) :=
  ⟨Frames.steady_mapNode steady _, rfl, rfl, rfl⟩

theorem steady_mapProcedure {f : Procedure → Procedure}
    (steady : ∀ node, (ScopeNode.procedure node).Steady (.procedure (f node))) :
    state.Steady (state.mapProcedure f) :=
  state.steady_mapNode (ScopeNode.steady_mapProcedure steady)

end Steady

end ScanState

/-! ## Recording statements -/

/-- Record a USE in a program unit or procedure. -/
def ScopeNode.addUse (found : Use) (node : ScopeNode) : ScopeNode :=
  node.mapSpecification fun specification =>
    { specification with uses := specification.uses ++ [found] }

namespace ScanState

/-- End the specification part of the innermost scope. -/
def endSpecification (state : ScanState) : ScanState :=
  state.mapFrames (Frames.mapScope fun scope => { scope with inSpecification := false })

/-- Record a USE in the innermost scope, or among the misplaced ones. -/
def addUse (state : ScanState) (found : Use) : ScanState :=
  if (Frames.scope? state.frames).any (·.inSpecification) then
    state.mapNode (·.addUse found)
  else
    { state with misplacedUses := state.misplacedUses ++ [found] }

section Recording

variable (state : ScanState)

theorem steady_recordExecutable (tokens : List Token) :
    state.endSpecification.Steady (state.recordExecutable tokens) := by
  unfold recordExecutable
  split
  · apply steady_mapProcedure
    exact fun _ => .procedure rfl rfl rfl
  · exact .refl _

theorem steady_recordMember (tokens : List Token) : state.Steady (state.recordMember tokens) := by
  simp only [recordMember]
  split
  · rename_i frames_eq
    split
    · refine ⟨?_, rfl, rfl, rfl⟩
      rw [frames_eq]
      exact .cons (.interface _ rfl) (Frames.steady_refl _)
    · exact .refl state
  · exact .refl state

theorem steady_recordEnumerators (tokens : List Token) :
    state.Steady (state.recordEnumerators tokens) := by
  unfold recordEnumerators
  split
  · refine ⟨?_, rfl, rfl, rfl⟩
    apply Frames.steady_mapProgramUnit
    exact fun _ => .programUnit rfl rfl rfl
  · exact .refl state

/-- CONTAINS ends the specification part of the innermost block, if that is a
scope. -/
theorem steady_recordContains (token : Token) :
    (if state.innermost.any (·.isScope) then state.endSpecification else state).Steady
      (state.recordContains token) := by
  obtain ⟨frames, units, external, topLevel, misplacedUses, errors, depths⟩ := state
  rcases frames with _ | ⟨frame, rest⟩
  · exact .refl _
  cases frame with
  | scope scope =>
    obtain ⟨opener, node, inSpecification, nested⟩ := scope
    cases node with
    | programUnit node =>
      refine ⟨.cons (.scope _ ?_ _ _) (Frames.steady_refl rest), rfl, rfl, rfl⟩
      exact .programUnit rfl rfl rfl
    | procedure node => exact ⟨.cons (.refl _) (Frames.steady_refl rest), rfl, rfl, rfl⟩
  | interface opener block => exact .refl _
  | derivedType opener name => exact .refl _
  | construct opener kind => exact .refl _

end Recording

end ScanState

/-! ## Members -/

theorem ScopeNode.Steady.home_eq {node node' : ScopeNode} (steady : node.Steady node')
    (outer : Home) : node'.home outer = node.home outer := by
  cases steady with
  | programUnit own_eq _ _ =>
    have token_eq := congrArg ProgramUnit.token own_eq
    exact congrArg Home.unit token_eq
  | procedure _ _ _ => rfl

theorem ScopeNode.Steady.subtree_eq {node node' : ScopeNode} (steady : node.Steady node')
    (outer : Home) : outer.subtree node' = outer.subtree node := by
  cases steady with
  | programUnit own_eq procedures_eq interfaces_eq =>
    have token_eq := congrArg ProgramUnit.token own_eq
    dsimp only [ProgramUnit.own, ProgramUnit.begin] at token_eq
    rw [Home.subtree, ProgramUnit.members, ProgramUnit.allProcedures, own_eq, token_eq,
      procedures_eq, interfaces_eq]
    rfl
  | @procedure node node' own_eq children_eq interfaces_eq =>
    have single : outer.members [node'] = outer.members [node] :=
      outer.members_congr (by simp [own_eq])
    rw [Home.subtree, Home.members_subtree, single, children_eq, interfaces_eq,
      ← Home.members_subtree]
    rfl

namespace Frames

variable {frames frames' : List Frame}

theorem home_of_steady (steady : List.Forall₂ Frame.Steady frames frames') :
    home frames' = home frames ∧ (scope? frames').isSome = (scope? frames).isSome := by
  induction steady with
  | nil => exact ⟨rfl, rfl⟩
  | @cons frame frame' rest rest' steady _ ih =>
    obtain ⟨home_eq, some_eq⟩ := ih
    cases steady with
    | scope opener steady inSpecification nested =>
      refine ⟨?_, rfl⟩
      rw [home, home_eq, steady.home_eq]
      rfl
    | interface opener bodies_eq =>
      refine ⟨?_, some_eq⟩
      rw [home, some_eq, home_eq]
      rfl
    | derivedType opener name => exact ⟨home_eq, some_eq⟩
    | construct opener kind => exact ⟨home_eq, some_eq⟩

theorem members_of_steady (steady : List.Forall₂ Frame.Steady frames frames') :
    members frames' = members frames := by
  induction steady with
  | nil => rfl
  | @cons frame frame' rest rest' steady others ih =>
    obtain ⟨home_eq, some_eq⟩ := home_of_steady others
    cases steady with
    | scope opener steady inSpecification nested =>
      rw [members, members, ih, home_eq, steady.subtree_eq]
    | @interface opener block block' bodies_eq =>
      have home_eq' : home (.interface opener block' :: rest') =
          home (.interface opener block :: rest) := by
        rw [home, some_eq, home_eq]
        rfl
      rw [members, members, ih, home_eq', bodies_eq]
    | derivedType opener name => exact ih
    | construct opener kind => exact ih

end Frames

namespace ScanState

variable {before after : ScanState}

/-- Recording changes no member. -/
theorem Steady.members_eq (steady : before.Steady after) : after.members = before.members := by
  rw [members, members, steady.units_eq, steady.external_eq,
    Frames.members_of_steady steady.frames]

variable (state : ScanState)

/-- The end of a specification part changes no member. -/
theorem members_endSpecification : state.endSpecification.members = state.members := by
  cases innermost : Frames.scope? state.frames with
  | none => rw [endSpecification, mapFrames, Frames.mapScope_of_scope?_none _ _ innermost]
  | some scope =>
    obtain ⟨others, before_eq, after_eq⟩ := Frames.exists_members_mapScope state.frames innermost
      (f := fun scope => { scope with inSpecification := false }) (.refl scope.node) rfl
    rw [members, endSpecification, mapFrames, after_eq, members, before_eq]

/-- A USE that is not misplaced changes the innermost scope and no other member. -/
theorem exists_members_addUse (found : Use) {scope : Scope}
    (innermost : Frames.scope? state.frames = some scope) (inside : scope.inSpecification = true) :
    ∃ others, state.members = (Frames.home state.frames).member scope.node + others ∧
      (state.addUse found).members =
        (Frames.home state.frames).member (scope.node.addUse found) + others := by
  have same : scope.node.SameHeld (scope.node.addUse found) := by
    cases scope.node with
    | programUnit node => exact .programUnit rfl rfl rfl
    | procedure node => exact .procedure rfl rfl
  obtain ⟨others, before_eq, after_eq⟩ := Frames.exists_members_mapScope state.frames innermost
    (f := fun scope => { scope with node := scope.node.addUse found }) same rfl
  refine ⟨unitMembers state.units + others +
    Home.external.members (Procedure.forest state.external), ?_, ?_⟩
  · rw [members, before_eq]
    abel
  · rw [addUse, innermost, Option.any_some, if_pos inside, members, mapNode, mapFrames,
      Frames.mapNode, after_eq]
    abel

/-! A block that opens is a member if it is a scope, and an interface block has no
bodies yet. -/

theorem members_push_unit (opener : Token) (kind : UnitKind) (name : Token) (line : Nat) :
    (state.push (.scope ⟨opener, .programUnit (.begin kind name line), true, []⟩)).members =
      {.programUnit (.begin kind name line)} + state.members := by
  simp only [members, push, Frames.members]
  change _ + ({Member.programUnit (.begin kind name line)} + 0 + _) + _ = _
  abel

theorem members_push_procedure (opener : Token) (header : Statement.Header) (line : Nat)
    (holder : Option Frame) :
    (state.push (.scope ⟨opener, .procedure (.begin header line holder), true, []⟩)).members =
      (Frames.home state.frames).members [.begin header line holder] + state.members := by
  have subtree_eq :
      (Frames.home state.frames).members (Procedure.begin header line holder).subtree =
      (Frames.home state.frames).members [.begin header line holder] :=
    (Home.members_subtree ..).trans (by simp [Procedure.begin, Procedure.forest,
      Procedure.interfaceForest])
  simp only [members, push, Frames.members, Home.subtree, subtree_eq]
  change _ + (_ + 0 + _) + _ = _
  abel

theorem members_push_interface (opener : Token) {block : Interface} (empty : block.bodies = []) :
    (state.push (.interface opener block)).members = state.members := by
  simp [members, push, Frames.members, empty, Procedure.forest]

end ScanState

end FortranStyle
