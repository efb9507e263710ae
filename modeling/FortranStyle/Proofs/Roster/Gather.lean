import FortranStyle.Proofs.Locality.Trace
import FortranStyle.Proofs.Roster.Deed
import Mathlib.Data.Multiset.AddSub
import Mathlib.Algebra.BigOperators.Group.Multiset.Basic
import Mathlib.Tactic.Abel

/-!
# Gathering from all scopes

Every program unit and procedure that starts stays in the state of a scan.  While it is
open it stands in a frame, and when it closes it takes its place in the block around it,
perhaps together with others that it holds.  Where a procedure will be found in the end is
known when it opens: with the innermost program unit, or outside any, or nowhere, when its
interface block stands in no program unit and no procedure.

So whatever is told of each scope by itself, and of its place, can be gathered from all of
them at any time, in no order.  Closing a block changes nothing in what is gathered, but
for the bodies that are lost, and recording in the innermost scope changes its share alone.
-/

namespace FortranStyle

/-! ## Places -/

/-- Where a procedure is found in the end. -/
inductive Home
  /-- In the program unit with a name. -/
  | unit (token : Token)
  /-- Outside any program unit. -/
  | external
  /-- Nowhere. -/
  | lost
deriving DecidableEq, Repr

/-- Where a procedure inside a program unit or procedure is found in the end: in the
unit, or where the procedure around it goes. -/
def ScopeNode.home (outer : Home) : ScopeNode → Home
  | programUnit node => .unit node.token
  | procedure _ => outer

/-- Where a procedure that opens inside some frames is found in the end.  A body goes
where the scope of its interface block does. -/
def Frames.home : List Frame → Home
  | [] => .external
  | .scope scope :: rest => scope.node.home (home rest)
  | .interface _ _ :: rest => if (scope? rest).isSome then home rest else .lost
  | .derivedType _ _ :: rest => home rest
  | .construct _ _ :: rest => home rest

/-! ## Walks over procedures -/

namespace Procedure

theorem subtree_eq (procedure : Procedure) :
    procedure.subtree =
      procedure :: (forest procedure.children ++ interfaceForest procedure.interfaces) := by
  cases procedure
  rfl

theorem forest_append (front back : List Procedure) :
    forest (front ++ back) = forest front ++ forest back := by
  induction front with
  | nil => rfl
  | cons first rest ih => rw [List.cons_append, forest, forest, ih, List.append_assoc]

theorem forest_singleton (procedure : Procedure) : forest [procedure] = procedure.subtree :=
  List.append_nil _

theorem interfaceForest_append (front back : List Interface) :
    interfaceForest (front ++ back) = interfaceForest front ++ interfaceForest back := by
  induction front with
  | nil => rfl
  | cons first rest ih =>
    rw [List.cons_append, interfaceForest, interfaceForest, ih, List.append_assoc]

theorem interfaceForest_singleton (block : Interface) :
    interfaceForest [block] = forest block.bodies :=
  List.append_nil _

/-- What does not look at the visibility of a procedure sees the same procedures when it
is known. -/
theorem map_forest_visibility {α : Type} {see : Procedure → α}
    (blind : ∀ procedure visibility, see { procedure with visibility } = see procedure)
    (visibility : Procedure → Visibility) (procedures : List Procedure) :
    (forest (procedures.map fun procedure =>
        { procedure with visibility := visibility procedure })).map see =
      (forest procedures).map see := by
  induction procedures with
  | nil => rfl
  | cons first rest ih =>
    rw [List.map_cons, forest, forest, List.map_append, List.map_append, ih, subtree_eq,
      subtree_eq, List.map_cons, List.map_cons, blind]

end Procedure

/-! ## What is gathered -/

section Gathering

variable {β : Type} (see : Home → ScopeNode → Multiset β)

/-- What is seen of procedures with one place. -/
def Procedure.gathered (home : Home) (procedures : List Procedure) : Multiset β :=
  (procedures.map fun node => see home (.procedure node)).sum

/-- What is seen of a program unit and of all its procedures. -/
def ProgramUnit.gathered (programUnit : ProgramUnit) : Multiset β :=
  see (.unit programUnit.token) (.programUnit programUnit) +
    Procedure.gathered see (.unit programUnit.token) programUnit.allProcedures

/-- What is seen of program units and of all their procedures. -/
def ProgramUnit.gatheredAll (programUnits : List ProgramUnit) : Multiset β :=
  (programUnits.map (gathered see)).sum

/-- What is seen of a program unit or procedure and of all its procedures. -/
def ScopeNode.gathered (outer : Home) : ScopeNode → Multiset β
  | programUnit node => node.gathered see
  | procedure node => Procedure.gathered see outer node.subtree

/-- What is seen of the scopes that stand in some frames. -/
def Frames.gathered : List Frame → Multiset β
  | [] => 0
  | .scope scope :: rest =>
      scope.node.gathered see (home rest) + ProgramUnit.gatheredAll see scope.nested +
        gathered rest
  | .interface opener block :: rest =>
      Procedure.gathered see (home (.interface opener block :: rest))
        (Procedure.forest block.bodies) + gathered rest
  | .derivedType _ _ :: rest => gathered rest
  | .construct _ _ :: rest => gathered rest

/-- What is seen of all scopes of a source as far as it has been read. -/
def ScanState.gathered (state : ScanState) : Multiset β :=
  ProgramUnit.gatheredAll see state.units + Frames.gathered see state.frames +
    Procedure.gathered see .external (Procedure.forest state.external)

/-- What is seen of all scopes of a recovered outline. -/
def Outline.gathered (outline : Outline) : Multiset β :=
  ProgramUnit.gatheredAll see outline.units +
    Procedure.gathered see .external (Procedure.forest outline.external)

/-- What is seen of a scope does not depend on what the scope holds, nor on what is known
only when a block ends. -/
structure Overlooks : Prop where
  child : ∀ home node child, see home (.addProcedure child node) = see home node
  block : ∀ home node block, see home (.addInterface block node) = see home node
  procedureEnd : ∀ home node endLine,
    see home (.procedure (Procedure.finish node endLine)) = see home (.procedure node)
  unitEnd : ∀ home node endLine,
    see home (.programUnit (ProgramUnit.finish node endLine)) = see home (.programUnit node)
  visibility : ∀ home node visibility,
    see home (.procedure { node with visibility }) = see home (.procedure node)

end Gathering

section Gathered

variable {β : Type} {see : Home → ScopeNode → Multiset β}

namespace Procedure

@[simp]
theorem gathered_append (home : Home) (front back : List Procedure) :
    gathered see home (front ++ back) = gathered see home front + gathered see home back := by
  rw [gathered, List.map_append, List.sum_append]
  rfl

theorem gathered_subtree (home : Home) (procedure : Procedure) :
    gathered see home procedure.subtree = see home (.procedure procedure) +
      (gathered see home (forest procedure.children) +
        gathered see home (interfaceForest procedure.interfaces)) := by
  rw [subtree_eq, ← gathered_append]
  rfl

theorem gathered_forest_append (home : Home) (front : List Procedure) (last : Procedure) :
    gathered see home (forest (front ++ [last])) =
      gathered see home last.subtree + gathered see home (forest front) := by
  rw [forest_append, gathered_append, forest_singleton, add_comm]

theorem gathered_interfaceForest_append (home : Home) (front : List Interface)
    (last : Interface) :
    gathered see home (interfaceForest (front ++ [last])) =
      gathered see home (forest last.bodies) + gathered see home (interfaceForest front) := by
  rw [interfaceForest_append, gathered_append, interfaceForest_singleton, add_comm]

theorem gathered_finish (overlooks : Overlooks see) (home : Home) (procedure : Procedure)
    (endLine : Nat) :
    gathered see home (procedure.finish endLine).subtree =
      gathered see home procedure.subtree := by
  rw [gathered_subtree, gathered_subtree, overlooks.procedureEnd]
  rfl

end Procedure

namespace ProgramUnit

@[simp]
theorem gatheredAll_append (front back : List ProgramUnit) :
    gatheredAll see (front ++ back) = gatheredAll see front + gatheredAll see back := by
  rw [gatheredAll, List.map_append, List.sum_append]
  rfl

theorem gatheredAll_cons (programUnit : ProgramUnit) (rest : List ProgramUnit) :
    gatheredAll see (programUnit :: rest) = programUnit.gathered see + gatheredAll see rest := by
  rw [gatheredAll, List.map_cons, List.sum_cons]
  rfl

theorem gathered_finish (overlooks : Overlooks see) (programUnit : ProgramUnit)
    (endLine : Nat) :
    (programUnit.finish endLine).gathered see = programUnit.gathered see := by
  have forest_eq := @Procedure.map_forest_visibility _
    (fun node => see (.unit programUnit.token) (.procedure node))
    (fun node visibility => overlooks.visibility _ node visibility)
    (fun node => programUnit.visibilityOf node.name) programUnit.procedures
  have own_eq := overlooks.unitEnd (.unit programUnit.token) programUnit endLine
  rw [gathered, gathered, allProcedures, allProcedures, Procedure.gathered_append,
    Procedure.gathered_append]
  refine congrArg₂ (· + ·) own_eq (congrArg (· + _) ?_)
  exact congrArg List.sum forest_eq

end ProgramUnit

namespace ScopeNode

/-- A node that holds what another holds. -/
inductive SameHeld : ScopeNode → ScopeNode → Prop
  | programUnit {node node' : ProgramUnit} (token_eq : node'.token = node.token)
      (procedures_eq : node'.procedures = node.procedures)
      (interfaces_eq : node'.interfaces = node.interfaces) :
      SameHeld (.programUnit node) (.programUnit node')
  | procedure {node node' : Procedure} (children_eq : node'.children = node.children)
      (interfaces_eq : node'.interfaces = node.interfaces) :
      SameHeld (.procedure node) (.procedure node')

theorem SameHeld.refl (node : ScopeNode) : node.SameHeld node := by
  cases node with
  | programUnit node => exact .programUnit rfl rfl rfl
  | procedure node => exact .procedure rfl rfl

theorem SameHeld.home_eq {node node' : ScopeNode} (same : node.SameHeld node') (outer : Home) :
    node'.home outer = node.home outer := by
  cases same with
  | programUnit token_eq _ _ => rw [home, token_eq, home]
  | procedure _ _ => rfl

variable (see) in
/-- What is recorded in a node that holds the same changes the share of the node alone. -/
theorem SameHeld.exists_gathered {node node' : ScopeNode} (same : node.SameHeld node')
    (outer : Home) :
    ∃ held, node.gathered see outer = see (node.home outer) node + held ∧
      node'.gathered see outer = see (node.home outer) node' + held := by
  cases same with
  | @programUnit node node' token_eq procedures_eq interfaces_eq =>
    refine ⟨Procedure.gathered see (.unit node.token) node.allProcedures, rfl, ?_⟩
    rw [gathered, ProgramUnit.gathered, ProgramUnit.allProcedures, token_eq, procedures_eq,
      interfaces_eq]
    rfl
  | @procedure node node' children_eq interfaces_eq =>
    refine ⟨_, Procedure.gathered_subtree outer node, ?_⟩
    rw [gathered, Procedure.gathered_subtree, children_eq, interfaces_eq]
    rfl

theorem home_addInterface (block : Interface) (node : ScopeNode) (outer : Home) :
    (node.addInterface block).home outer = node.home outer := by
  cases node with
  | programUnit node => rfl
  | procedure node => rfl

variable (overlooks : Overlooks see)

include overlooks

theorem gathered_addProcedure (procedure : Procedure) (node : ScopeNode) (outer : Home) :
    (node.addProcedure procedure).gathered see outer =
      Procedure.gathered see (node.home outer) procedure.subtree + node.gathered see outer := by
  cases node with
  | programUnit node =>
    have own_eq := overlooks.child (.unit node.token) (.programUnit node) procedure
    simp only [addProcedure, gathered, ProgramUnit.gathered, ProgramUnit.allProcedures,
      Procedure.gathered_append, Procedure.gathered_forest_append, home] at own_eq ⊢
    rw [own_eq]
    abel
  | procedure node =>
    have own_eq := overlooks.child outer (.procedure node) procedure
    simp only [addProcedure, gathered, Procedure.gathered_subtree,
      Procedure.gathered_forest_append, home] at own_eq ⊢
    rw [own_eq]
    abel

theorem gathered_addInterface (block : Interface) (node : ScopeNode) (outer : Home) :
    (node.addInterface block).gathered see outer =
      Procedure.gathered see (node.home outer) (Procedure.forest block.bodies) +
        node.gathered see outer := by
  cases node with
  | programUnit node =>
    have own_eq := overlooks.block (.unit node.token) (.programUnit node) block
    simp only [addInterface, gathered, ProgramUnit.gathered, ProgramUnit.allProcedures,
      Procedure.gathered_append, Procedure.gathered_interfaceForest_append, home] at own_eq ⊢
    rw [own_eq]
    abel
  | procedure node =>
    have own_eq := overlooks.block outer (.procedure node) block
    simp only [addInterface, gathered, Procedure.gathered_subtree,
      Procedure.gathered_interfaceForest_append, home] at own_eq ⊢
    rw [own_eq]
    abel

end ScopeNode

/-! ## The innermost scope -/

namespace Frames

variable (frames : List Frame)

theorem scope?_mapScope (f : Scope → Scope) :
    scope? (mapScope f frames) = (scope? frames).map f := by
  induction frames with
  | nil => rfl
  | cons frame rest ih =>
    cases frame with
    | scope scope => rfl
    | interface _ _ => exact ih
    | derivedType _ _ => exact ih
    | construct _ _ => exact ih

theorem isSome_scope?_mapScope (f : Scope → Scope) :
    (scope? (mapScope f frames)).isSome = (scope? frames).isSome := by
  rw [scope?_mapScope, Option.isSome_map]

theorem mapScope_of_scope?_none (f : Scope → Scope) (outside : scope? frames = none) :
    mapScope f frames = frames := by
  induction frames with
  | nil => rfl
  | cons frame rest ih =>
    cases frame with
    | scope scope => contradiction
    | interface opener block => exact congrArg (Frame.interface opener block :: ·) (ih outside)
    | derivedType opener name => exact congrArg (Frame.derivedType opener name :: ·) (ih outside)
    | construct opener kind => exact congrArg (Frame.construct opener kind :: ·) (ih outside)

theorem home_mapScope {f : Scope → Scope}
    (same : ∀ scope ∈ scope? frames, ∀ outer, (f scope).node.home outer = scope.node.home outer) :
    home (mapScope f frames) = home frames := by
  induction frames with
  | nil => rfl
  | cons frame rest ih =>
    cases frame with
    | scope scope => exact same scope rfl (home rest)
    | interface opener block =>
      have some_eq := isSome_scope?_mapScope rest f
      change (if (scope? (mapScope f rest)).isSome then home (mapScope f rest) else .lost) = _
      rw [some_eq, ih same]
      rfl
    | derivedType _ _ => exact ih same
    | construct _ _ => exact ih same

theorem home_interface (opener : Token) (block : Interface)
    (inside : (scope? frames).isSome = true) :
    home (.interface opener block :: frames) = home frames :=
  if_pos inside

variable (see) in
/-- The innermost scope goes where the procedures inside it go, and what is recorded in it
changes the share of no other. -/
theorem exists_gathered_mapScope {f : Scope → Scope} {scope : Scope}
    (innermost : scope? frames = some scope) (same : scope.node.SameHeld (f scope).node)
    (nested_eq : (f scope).nested = scope.nested) :
    ∃ others, gathered see frames = see (home frames) scope.node + others ∧
      gathered see (mapScope f frames) = see (home frames) (f scope).node + others := by
  induction frames with
  | nil => contradiction
  | cons frame rest ih =>
    cases frame with
    | scope inner =>
      obtain rfl : inner = scope := Option.some.inj innermost
      obtain ⟨held, before_eq, after_eq⟩ := same.exists_gathered see (home rest)
      refine ⟨held + ProgramUnit.gatheredAll see inner.nested + gathered see rest, ?_, ?_⟩
      · rw [gathered, before_eq, add_assoc, add_assoc, add_assoc]
        rfl
      · rw [mapScope, gathered, after_eq, nested_eq, add_assoc, add_assoc, add_assoc]
        rfl
    | interface opener block =>
      obtain ⟨others, before_eq, after_eq⟩ := ih innermost
      have home_eq : home (.interface opener block :: rest) = home rest :=
        home_interface rest opener block (Option.isSome_of_mem innermost)
      have home_eq' : home (.interface opener block :: mapScope f rest) =
          home (.interface opener block :: rest) := by
        refine home_mapScope (.interface opener block :: rest) fun found member => ?_
        obtain rfl : found = scope := Option.some.inj (member.symm.trans innermost)
        exact same.home_eq
      refine ⟨Procedure.gathered see (home rest) (Procedure.forest block.bodies) + others, ?_, ?_⟩
      · rw [gathered, home_eq, before_eq, add_left_comm]
      · change gathered see (.interface opener block :: mapScope f rest) = _
        rw [gathered, home_eq', home_eq, after_eq, add_left_comm]
    | derivedType _ _ => exact ih innermost
    | construct _ _ => exact ih innermost

/-! ## The innermost program unit -/

variable (see) in
/-- A change of the innermost program unit that does not show changes nothing. -/
theorem gathered_mapProgramUnit {f : ProgramUnit → ProgramUnit}
    (same : ∀ node, (ScopeNode.programUnit node).SameHeld (.programUnit (f node)))
    (see_eq : ∀ home node, see home (.programUnit (f node)) = see home (.programUnit node)) :
    gathered see (mapProgramUnit f frames) = gathered see frames ∧
      home (mapProgramUnit f frames) = home frames ∧
        (scope? (mapProgramUnit f frames)).isSome = (scope? frames).isSome := by
  induction frames with
  | nil => exact ⟨rfl, rfl, rfl⟩
  | cons frame rest ih =>
    obtain ⟨gathered_eq, home_eq, some_eq⟩ := ih
    cases frame with
    | scope scope =>
      obtain ⟨opener, node, inSpecification, nested⟩ := scope
      cases node with
      | programUnit node =>
        obtain ⟨held, before_eq, after_eq⟩ := (same node).exists_gathered see (home rest)
        refine ⟨?_, (same node).home_eq (home rest), rfl⟩
        rw [mapProgramUnit, gathered, gathered, after_eq, before_eq, see_eq]
      | procedure node =>
        refine ⟨?_, home_eq, rfl⟩
        change gathered see (.scope _ :: mapProgramUnit f rest) = _
        rw [gathered, gathered, gathered_eq, home_eq]
    | interface opener block =>
      have home_eq' : home (.interface opener block :: mapProgramUnit f rest) =
          home (.interface opener block :: rest) := by
        rw [home, some_eq, home_eq]
        rfl
      refine ⟨?_, home_eq', some_eq⟩
      change gathered see (.interface opener block :: mapProgramUnit f rest) = _
      rw [gathered, gathered, gathered_eq, home_eq']
    | derivedType _ _ => exact ⟨gathered_eq, home_eq, some_eq⟩
    | construct _ _ => exact ⟨gathered_eq, home_eq, some_eq⟩

/-! ## Closing blocks -/

/-- An interface block that closes takes its place in the innermost scope, and its bodies
are lost when there is none. -/
theorem gathered_addInterface (overlooks : Overlooks see) (opener : Token) (block : Interface) :
    Procedure.gathered see (home (.interface opener block :: frames))
        (Procedure.forest block.bodies) + gathered see frames =
      gathered see (mapNode (·.addInterface block) frames) +
        if (scope? frames).isSome then 0
        else Procedure.gathered see .lost (Procedure.forest block.bodies) := by
  induction frames with
  | nil => exact add_comm _ _
  | cons frame rest ih =>
    cases frame with
    | scope scope =>
      rw [scope?, Option.isSome_some, if_pos rfl, add_zero]
      have home_eq : home (.interface opener block :: .scope scope :: rest) =
          scope.node.home (home rest) := rfl
      change _ = (scope.node.addInterface block).gathered see (home rest) +
        ProgramUnit.gatheredAll see scope.nested + gathered see rest
      rw [ScopeNode.gathered_addInterface overlooks, gathered, home_eq]
      abel
    | interface opener' block' =>
      have home_eq : home (.interface opener' block' :: mapNode (·.addInterface block) rest) =
          home (.interface opener' block' :: rest) :=
        home_mapScope (.interface opener' block' :: rest) fun scope _ outer =>
          ScopeNode.home_addInterface block scope.node outer
      have home_eq' : home (.interface opener block :: .interface opener' block' :: rest) =
          home (.interface opener block :: rest) := by
        simp only [home, scope?]
        split
        · rfl
        · rfl
      have scope_eq : scope? (.interface opener' block' :: rest) = scope? rest := rfl
      change _ =
        gathered see (.interface opener' block' :: mapNode (·.addInterface block) rest) + _
      rw [gathered, gathered, home_eq, home_eq', scope_eq, add_left_comm, ih, add_assoc]
    | derivedType _ _ => exact ih
    | construct _ _ => exact ih

/-- A procedure that ends takes its place in the innermost interface block or scope. -/
theorem gathered_attach? (overlooks : Overlooks see) {procedure : Procedure}
    {frames frames' : List Frame} (attached : attach? procedure frames = some frames') :
    gathered see frames' =
      Procedure.gathered see (home frames) procedure.subtree + gathered see frames := by
  induction frames generalizing frames' with
  | nil => contradiction
  | cons frame rest ih =>
    cases frame with
    | scope scope =>
      cases attached
      rw [gathered, ScopeNode.gathered_addProcedure overlooks, gathered, home, add_assoc,
        add_assoc, ← add_assoc (ScopeNode.gathered see _ _)]
    | interface opener block =>
      cases attached
      have home_eq (block' : Interface) :
          home (.interface opener block' :: rest) = home (.interface opener block :: rest) := rfl
      rw [gathered, gathered, home_eq, Procedure.gathered_forest_append, add_assoc]
    | derivedType _ _ =>
      obtain ⟨rest', attached', rfl⟩ := Option.map_eq_some_iff.mp attached
      have taken := ih attached'
      exact taken
    | construct _ _ =>
      obtain ⟨rest', attached', rfl⟩ := Option.map_eq_some_iff.mp attached
      have taken := ih attached'
      exact taken

/-- A procedure that takes its place is not seen by what does not look inside
blocks. -/
theorem map_attach? {α : Type} {see : Frame → α} {procedure : Procedure}
    (sameScope : ∀ scope,
      see (.scope { scope with node := scope.node.addProcedure procedure }) = see (.scope scope))
    (sameInterface : ∀ opener block,
      see (.interface opener { block with bodies := block.bodies ++ [procedure] }) =
        see (.interface opener block))
    {frames frames' : List Frame} (attached : attach? procedure frames = some frames') :
    frames'.map see = frames.map see := by
  induction frames generalizing frames' with
  | nil => contradiction
  | cons frame rest ih =>
    cases frame with
    | scope scope =>
      cases attached
      exact congrArg (· :: rest.map see) (sameScope scope)
    | interface opener block =>
      cases attached
      exact congrArg (· :: rest.map see) (sameInterface opener block)
    | derivedType opener name =>
      obtain ⟨rest', attached', rfl⟩ := Option.map_eq_some_iff.mp attached
      exact congrArg (see (.derivedType opener name) :: ·) (ih attached')
    | construct opener kind =>
      obtain ⟨rest', attached', rfl⟩ := Option.map_eq_some_iff.mp attached
      exact congrArg (see (.construct opener kind) :: ·) (ih attached')

theorem home_of_attach?_none {procedure : Procedure} {frames : List Frame}
    (loose : attach? procedure frames = none) : home frames = .external := by
  induction frames with
  | nil => rfl
  | cons frame rest ih =>
    cases frame with
    | scope scope => contradiction
    | interface _ _ => contradiction
    | derivedType _ _ => exact ih (Option.map_eq_none_iff.mp loose)
    | construct _ _ => exact ih (Option.map_eq_none_iff.mp loose)

theorem gathered_addNested (programUnits : List ProgramUnit)
    (inside : (scope? frames).isSome = true) :
    gathered see
        (mapScope (fun scope => { scope with nested := scope.nested ++ programUnits }) frames) =
      gathered see frames + ProgramUnit.gatheredAll see programUnits := by
  induction frames with
  | nil => contradiction
  | cons frame rest ih =>
    cases frame with
    | scope scope =>
      change scope.node.gathered see (home rest) +
        ProgramUnit.gatheredAll see (scope.nested ++ programUnits) + gathered see rest = _
      rw [ProgramUnit.gatheredAll_append, gathered]
      abel
    | interface opener block =>
      have home_eq : home (.interface opener block :: mapScope
            (fun scope => { scope with nested := scope.nested ++ programUnits }) rest) =
          home (.interface opener block :: rest) :=
        home_mapScope (.interface opener block :: rest) fun _ _ _ => rfl
      change gathered see (.interface opener block :: mapScope _ rest) = _
      rw [gathered, home_eq, ih inside, gathered, add_assoc]
    | derivedType _ _ => exact ih inside
    | construct _ _ => exact ih inside

end Frames

/-! ## States -/

namespace ScanState

variable (state : ScanState)

theorem gathered_addUnits (programUnits : List ProgramUnit) :
    (state.addUnits programUnits).gathered see =
      state.gathered see + ProgramUnit.gatheredAll see programUnits := by
  unfold addUnits
  split
  · rename_i inside
    rw [gathered, gathered, mapFrames, Frames.gathered_addNested _ _ inside]
    abel
  · rw [gathered, gathered, ProgramUnit.gatheredAll_append]
    abel

section Closing

variable (overlooks : Overlooks see)

include overlooks

theorem gathered_addProcedure (procedure : Procedure) :
    (state.addProcedure procedure).gathered see =
      Procedure.gathered see (Frames.home state.frames) procedure.subtree +
        state.gathered see := by
  unfold addProcedure
  split
  · rename_i attached
    rw [gathered, gathered, Frames.gathered_attach? overlooks attached]
    abel
  · rename_i loose
    rw [Frames.home_of_attach?_none loose, gathered, gathered, Procedure.gathered_forest_append]
    abel

/-- Closing a block changes nothing in what is gathered, but for the bodies of an interface
block in no scope. -/
theorem exists_gathered_closeTop (endLine : Nat) :
    ∃ lost, state.gathered see = (state.closeTop endLine).gathered see + lost ∧
      ((∀ node, see .lost (.procedure node) = 0) → lost = 0) := by
  obtain ⟨frames, units, external, topLevel, misplacedUses, errors, depths⟩ := state
  rcases frames with _ | ⟨frame, rest⟩
  · exact ⟨0, (add_zero _).symm, fun _ => rfl⟩
  cases frame with
  | scope scope =>
    obtain ⟨opener, node, inSpecification, nested⟩ := scope
    refine ⟨0, ?_, fun _ => rfl⟩
    cases node with
    | programUnit node =>
      rw [closeTop, gathered_addUnits, ProgramUnit.gatheredAll_cons,
        ProgramUnit.gathered_finish overlooks, gathered, gathered, Frames.gathered,
        ScopeNode.gathered]
      abel
    | procedure node =>
      rw [closeTop, gathered_addUnits, gathered_addProcedure _ overlooks,
        Procedure.gathered_finish overlooks, gathered, gathered, Frames.gathered,
        ScopeNode.gathered]
      abel
  | interface opener block =>
    refine ⟨if (Frames.scope? rest).isSome then 0
      else Procedure.gathered see .lost (Procedure.forest block.bodies), ?_, fun forgets => ?_⟩
    · rw [closeTop, gathered, Frames.gathered, Frames.gathered_addInterface rest overlooks,
        ← add_assoc, add_right_comm]
      rfl
    · split
      · rfl
      · exact List.sum_eq_zero (by simp [forgets])
  | derivedType _ _ => exact ⟨0, (add_zero _).symm, fun _ => rfl⟩
  | construct _ _ => exact ⟨0, (add_zero _).symm, fun _ => rfl⟩

theorem gathered_closeTop_le (endLine : Nat) :
    (state.closeTop endLine).gathered see ≤ state.gathered see := by
  obtain ⟨lost, gathered_eq, -⟩ := state.exists_gathered_closeTop overlooks endLine
  rw [gathered_eq]
  exact Multiset.le_add_right _ _

variable (forgets : ∀ node, see .lost (.procedure node) = 0)

include forgets

theorem gathered_closeTop (endLine : Nat) :
    (state.closeTop endLine).gathered see = state.gathered see := by
  obtain ⟨lost, gathered_eq, nothing⟩ := state.exists_gathered_closeTop overlooks endLine
  rw [gathered_eq, nothing forgets, add_zero]

theorem gathered_close (closer : Statement.Closer) (first last : Token) :
    (state.close closer first last).gathered see = state.gathered see := by
  refine close_of (P := fun after => after.gathered see = state.gathered see) ?_ ?_ rfl
    closer first last
  · exact fun after line same => (after.gathered_closeTop overlooks forgets line).trans same
  · exact fun _ _ _ same => same

theorem gathered_closeAll (lastLine count : Nat) :
    (state.closeAll lastLine count).gathered see = state.gathered see := by
  refine closeAll_of (P := fun after => after.gathered see = state.gathered see) ?_ ?_ rfl
    lastLine count
  · exact fun after line same => (after.gathered_closeTop overlooks forgets line).trans same
  · exact fun _ _ _ same => same

end Closing

/-- What is gathered in the end is what is gathered when all statements have been read. -/
theorem gathered_ofStatements (overlooks : Overlooks see)
    (forgets : ∀ node, see .lost (.procedure node) = 0) (lineCount : Nat)
    (statements : List (List Token)) :
    (Outline.ofStatements lineCount statements).gathered see =
      (initial.run statements).gathered see := by
  have closed := (initial.run statements).gathered_closeAll overlooks forgets (max lineCount 1)
    (initial.run statements).depth
  rw [← closed, gathered, frames_closeAll, Frames.gathered, add_zero]
  rfl

end ScanState

end Gathered

end FortranStyle
