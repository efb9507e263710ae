import FortranStyle.Proofs.Nesting.History

/-!
# The body of a procedure

While the statements of a body neither open nor close a program unit or procedure
and open no ENUM, everything that happens stays inside the procedure, however its
constructs, interfaces and types are left open, closed twice or crossed.  The
frames below the procedure, what has ended before and the heading of the procedure
stay as they are; only errors, depths and misplaced USE statements are added.

The statement that ends the procedure closes what is open inside, and puts the
procedure into the block that takes it.
-/

namespace FortranStyle

/-! ## Statements that stay inside -/

namespace OpenBlock

/-- Whether statements inside the block are recorded inside its procedure: it is
no scope of its own, and it is no ENUM, whose names belong to the program unit. -/
def IsInner (block : OpenBlock) : Prop :=
  block.kind.isScope = false ∧ block.kind ≠ .construct .enumeration

end OpenBlock

theorem Frame.isScope_block_scope (scope : Scope) :
    (Frame.scope scope).block.kind.isScope = true :=
  (Frame.scope scope).isScope_eq.symm

theorem Frame.not_isInner_scope (scope : Scope) : ¬(Frame.scope scope).block.IsInner := by
  intro inner
  have hidden := inner.1
  rw [isScope_block_scope] at hidden
  contradiction

namespace ScanState

/-- A statement that neither opens nor closes a program unit or procedure, and
opens no ENUM. -/
def Confines (state : ScanState) (statement : List Token) : Prop :=
  ∀ mark ∈ state.mark? statement,
    match mark with
    | .opens block => block.IsInner
    | .closes closer _ =>
        ∀ block ∈ OpenBlock.target? closer.kind state.blocks, block.kind.isScope = false

/-- Successive statements, each of which neither opens nor closes a program unit
or procedure where it stands, and opens no ENUM. -/
def ConfinesAll : ScanState → List (List Token) → Prop
  | _, [] => True
  | state, statement :: rest => state.Confines statement ∧ (state.step statement).ConfinesAll rest

instance (state : ScanState) (statement : List Token) : Decidable (state.Confines statement) :=
  decidable_of_iff
    ((state.mark? statement).all fun
      | .opens block => !block.kind.isScope && block.kind != .construct .enumeration
      | .closes closer _ =>
          (OpenBlock.target? closer.kind state.blocks).all fun block => !block.kind.isScope)
    (by
      unfold Confines
      cases state.mark? statement with
      | none => simp
      | some mark => cases mark <;> simp [OpenBlock.IsInner, Option.all_eq_true])

instance decidableConfinesAll : (state : ScanState) → (statements : List (List Token)) →
    Decidable (state.ConfinesAll statements)
  | _, [] => .isTrue trivial
  | state, statement :: rest =>
      have := decidableConfinesAll (state.step statement) rest
      inferInstanceAs
        (Decidable (state.Confines statement ∧ (state.step statement).ConfinesAll rest))

/-- The lines on which statements start. -/
def startLines (statements : List (List Token)) : List Nat :=
  statements.filterMap fun statement => statement.head?.map (·.line)

/-- Nothing but errors, misplaced USE statements and depths of the given lines
has been added. -/
structure Grown (lines : List Nat) (before after : ScanState) : Prop where
  frames : after.frames = before.frames
  units : after.units = before.units
  external : after.external = before.external
  topLevel : after.topLevel = before.topLevel
  misplacedUses : before.misplacedUses <+: after.misplacedUses
  errors : before.errors <+: after.errors
  depths : ∃ added, after.depths = added ++ before.depths ∧ ∀ entry ∈ added, entry.1 ∈ lines

namespace Grown

variable {lines : List Nat} {first second third : ScanState}

theorem refl (lines : List Nat) (state : ScanState) : Grown lines state state :=
  ⟨rfl, rfl, rfl, rfl, List.prefix_rfl, List.prefix_rfl, [], rfl, by simp⟩

theorem trans (left : Grown lines first second) (right : Grown lines second third) :
    Grown lines first third where
  frames := right.frames.trans left.frames
  units := right.units.trans left.units
  external := right.external.trans left.external
  topLevel := right.topLevel.trans left.topLevel
  misplacedUses := left.misplacedUses.trans right.misplacedUses
  errors := left.errors.trans right.errors
  depths := by
    obtain ⟨early, early_eq, early_mem⟩ := left.depths
    obtain ⟨late, late_eq, late_mem⟩ := right.depths
    refine ⟨late ++ early, by rw [late_eq, early_eq, List.append_assoc], ?_⟩
    intro entry mem
    rcases List.mem_append.mp mem with mem | mem
    · exact late_mem entry mem
    · exact early_mem entry mem

end Grown

end ScanState

/-! ## What a body leaves of its procedure -/

namespace Procedure

/-- A procedure without what its body, its end and its declarations say. -/
def heading (procedure : Procedure) : Procedure :=
  { procedure with
    endLine := 0, arguments := [], specification := .empty, actions := [], interfaces := [] }

end Procedure

namespace ScopeNode

/-- A change that leaves the heading of a procedure as it is. -/
def KeepsHeading (f : ScopeNode → ScopeNode) : Prop :=
  ∀ node, ∃ node', f (.procedure node) = .procedure node' ∧ node'.heading = node.heading

theorem keepsHeading_mapSpecification (f : Specification → Specification) :
    KeepsHeading (mapSpecification f) :=
  fun _ => ⟨_, rfl, rfl⟩

theorem keepsHeading_mapUnit (f : ProgramUnit → ProgramUnit) : KeepsHeading (mapUnit f) :=
  fun _ => ⟨_, rfl, rfl⟩

theorem keepsHeading_mapProcedure {f : Procedure → Procedure}
    (same : ∀ node, (f node).heading = node.heading) : KeepsHeading (mapProcedure f) :=
  fun node => ⟨_, rfl, same node⟩

theorem keepsHeading_addInterface (block : Interface) : KeepsHeading (addInterface block) :=
  fun _ => ⟨_, rfl, rfl⟩

theorem keepsHeading_declare (constants : List String) (declarations : List Declaration) :
    KeepsHeading fun node => declarations.foldl (ScopeNode.declare constants) node := by
  induction declarations with
  | nil => exact fun node => ⟨node, rfl, rfl⟩
  | cons declaration rest ih =>
    intro node
    obtain ⟨node', node'_eq, heading_eq⟩ := ih (node.declare constants declaration)
    exact ⟨node', node'_eq, heading_eq⟩

end ScopeNode

/-! ## Frames inside a procedure -/

namespace Frames

/-- Open blocks inside a procedure of a heading, a number of them and no scope or
ENUM among them, with the given blocks below the procedure. -/
inductive Inside (below : List Frame) (heading : Procedure) : Nat → List Frame → Prop
  | scope (opener : Token) {node : Procedure} (inSpecification : Bool)
      (heading_eq : node.heading = heading) :
      Inside below heading 0 (.scope ⟨opener, .procedure node, inSpecification, []⟩ :: below)
  | block {frame : Frame} {count : Nat} {frames : List Frame} (inner : frame.block.IsInner)
      (inside : Inside below heading count frames) :
      Inside below heading (count + 1) (frame :: frames)

namespace Inside

variable {below frames : List Frame} {heading : Procedure} {count : Nat}

theorem mapScope {f : Scope → Scope}
    (keeps : ∀ opener node inSpecification, ∃ node' inSpecification',
      f ⟨opener, .procedure node, inSpecification, []⟩ =
        ⟨opener, .procedure node', inSpecification', []⟩ ∧ node'.heading = node.heading)
    (inside : Inside below heading count frames) :
    Inside below heading count (Frames.mapScope f frames) := by
  induction inside with
  | scope opener inSpecification heading_eq =>
    obtain ⟨node', inSpecification', scope_eq, same⟩ := keeps opener _ inSpecification
    rw [Frames.mapScope, scope_eq]
    exact .scope opener inSpecification' (same.trans heading_eq)
  | @block frame _ _ inner _ ih =>
    cases frame with
    | scope scope => exact absurd inner (Frame.not_isInner_scope scope)
    | interface _ _ => exact .block inner ih
    | derivedType _ _ => exact .block inner ih
    | construct _ _ => exact .block inner ih

theorem mapNode {f : ScopeNode → ScopeNode} (keeps : ScopeNode.KeepsHeading f)
    (inside : Inside below heading count frames) :
    Inside below heading count (Frames.mapNode f frames) := by
  apply inside.mapScope
  intro opener node inSpecification
  obtain ⟨node', node'_eq, heading_eq⟩ := keeps node
  exact ⟨node', inSpecification, by rw [node'_eq], heading_eq⟩

/-- No ENUM is open inside. -/
theorem head?_ne (inside : Inside below heading count frames) :
    (frames.map Frame.block).head?.map (·.kind) ≠ some (.construct .enumeration) := by
  cases inside with
  | scope _ _ _ => exact nofun
  | block inner _ => exact fun kind_eq => inner.2 (Option.some.inj kind_eq)

/-- Only the END of a scope looks past the procedure. -/
theorem lt_of_reach? {kind : Option BlockKind} {reached : Nat}
    (narrow : kind.any (!·.isScope) = true) (inside : Inside below heading count frames)
    (found : reach? kind frames = some reached) : reached < count := by
  induction inside generalizing reached with
  | @scope opener node inSpecification _ =>
    have scope := Frame.isScope_block_scope ⟨opener, .procedure node, inSpecification, []⟩
    rw [reach?_cons, scope, narrow] at found
    split at found
    · rename_i closes
      rw [OpenBlock.not_isScope_of_isClosedBy closes narrow] at scope
      contradiction
    · contradiction
  | @block frame _ _ inner _ ih =>
    rw [reach?_cons, inner.1, Bool.false_and, if_neg Bool.false_ne_true] at found
    split at found
    · cases found
      exact Nat.zero_lt_succ _
    · obtain ⟨beyond, above, rfl⟩ := Option.map_eq_some_iff.mp found
      exact Nat.succ_lt_succ (ih above)

/-- A bare END and the END of a procedure of its kind reach the procedure. -/
theorem reach?_eq {kind : Option BlockKind}
    (ends : kind = none ∨ kind = some (.procedure heading.kind))
    (inside : Inside below heading count frames) : reach? kind frames = some count := by
  have wide : kind.any (!·.isScope) = false := by rcases ends with rfl | rfl <;> rfl
  induction inside with
  | @scope opener node inSpecification heading_eq =>
    subst heading_eq
    have closes : OpenBlock.isClosedBy kind
        (Frame.scope ⟨opener, .procedure node, inSpecification, []⟩).block = true := by
      rcases ends with rfl | rfl
      · rfl
      · exact beq_self_eq_true (BlockKind.procedure node.kind)
    rw [reach?_cons, closes]
    rfl
  | @block frame _ _ inner _ ih =>
    have stays : OpenBlock.isClosedBy kind frame.block = false := by
      rw [Bool.eq_false_iff, Ne, OpenBlock.isClosedBy_iff]
      rintro (rfl | ⟨-, scope⟩)
      · rcases ends with impossible | kind_eq
        · contradiction
        · have scope := inner.1
          rw [Option.some.inj kind_eq] at scope
          contradiction
      · rw [inner.1] at scope
        contradiction
    rw [reach?_cons, stays, inner.1, ih]
    rfl

end Inside

end Frames

/-! ## What statements do inside a procedure -/

namespace ScanState

/-- The state of a scan inside a procedure: outside of it nothing has changed. -/
structure Inside (outer : ScanState) (heading : Procedure) (lines : List Nat) (count : Nat)
    (state : ScanState) : Prop where
  frames : Frames.Inside outer.frames heading count state.frames
  grown : Grown lines outer { state with frames := outer.frames }

namespace Inside

variable {outer state : ScanState} {heading : Procedure} {lines : List Nat} {count : Nat}

section Recording

variable (inside : Inside outer heading lines count state)

include inside

theorem report (cause : StructuralCause) (token : Token) :
    Inside outer heading lines count (state.report cause token) where
  frames := inside.frames
  grown := inside.grown.trans
    ⟨rfl, rfl, rfl, rfl, List.prefix_rfl, List.prefix_append .., [], rfl, by simp⟩

theorem recordDepth {token : Token} (mem : token.line ∈ lines) (depth : Nat) :
    Inside outer heading lines count (state.recordDepth token depth) where
  frames := inside.frames
  grown := inside.grown.trans
    ⟨rfl, rfl, rfl, rfl, List.prefix_rfl, List.prefix_rfl, [(token.line, depth)], rfl, by
      simpa using mem⟩

theorem push {frame : Frame} (inner : frame.block.IsInner) :
    Inside outer heading lines (count + 1) (state.push frame) where
  frames := .block inner inside.frames
  grown := inside.grown

theorem mapNode {f : ScopeNode → ScopeNode} (keeps : ScopeNode.KeepsHeading f) :
    Inside outer heading lines count (state.mapNode f) where
  frames := inside.frames.mapNode keeps
  grown := inside.grown

theorem recordExecutable (tokens : List Token) :
    Inside outer heading lines count (state.recordExecutable tokens) := by
  have ended : Inside outer heading lines count (state.mapFrames (Frames.mapScope fun scope =>
      { scope with inSpecification := false })) :=
    ⟨inside.frames.mapScope fun _ _ _ => ⟨_, _, rfl, rfl⟩, inside.grown⟩
  unfold ScanState.recordExecutable
  cases Statement.action? tokens with
  | none => exact ended
  | some action => exact ended.mapNode (ScopeNode.keepsHeading_mapProcedure fun _ => rfl)

theorem recordUse (tokens : List Token) :
    Inside outer heading lines count (state.recordUse tokens) := by
  unfold ScanState.recordUse
  split
  · exact inside
  · split
    · exact inside.mapNode (ScopeNode.keepsHeading_mapSpecification _)
    · exact ⟨inside.frames, inside.grown.trans
        ⟨rfl, rfl, rfl, rfl, List.prefix_append .., List.prefix_rfl, [], rfl, by simp⟩⟩

theorem recordImplicit (tokens : List Token) :
    Inside outer heading lines count (state.recordImplicit tokens) := by
  unfold ScanState.recordImplicit
  split
  · exact inside.mapNode (ScopeNode.keepsHeading_mapSpecification _)
  · exact inside

theorem recordIntent (tokens : List Token) :
    Inside outer heading lines count (state.recordIntent tokens) := by
  simp only [ScanState.recordIntent]
  split
  · exact inside.mapNode (ScopeNode.keepsHeading_mapProcedure fun _ => rfl)
  · exact inside

theorem recordPlain (tokens : List Token) :
    Inside outer heading lines count (state.recordPlain tokens) := by
  cases tokens with
  | nil => exact inside
  | cons first rest =>
    simp only [ScanState.recordPlain]
    split_ifs
    · exact inside.recordUse _
    · exact inside.recordImplicit _
    · exact inside.mapNode (ScopeNode.keepsHeading_declare _ _)
    · exact inside.mapNode (ScopeNode.keepsHeading_mapUnit _)
    · exact inside.mapNode (ScopeNode.keepsHeading_mapUnit _)
    · exact inside.recordIntent _
    · exact inside.mapNode (ScopeNode.keepsHeading_mapSpecification _)
    · exact inside.mapNode (ScopeNode.keepsHeading_mapProcedure fun _ => rfl)
    · exact inside
    · exact inside.recordExecutable _

theorem recordContains (token : Token) :
    Inside outer heading lines count (state.recordContains token) := by
  have frames := inside.frames
  unfold ScanState.recordContains
  split
  · rename_i scope rest frames_eq
    rw [frames_eq] at frames
    cases frames with
    | scope opener inSpecification heading_eq =>
      exact ⟨.scope opener false heading_eq, inside.grown⟩
    | block inner _ => exact absurd inner (Frame.not_isInner_scope scope)
  · exact inside

theorem recordMember (tokens : List Token) :
    Inside outer heading lines count (state.recordMember tokens) := by
  have frames := inside.frames
  simp only [ScanState.recordMember]
  split
  · rename_i frames_eq
    rw [frames_eq] at frames
    split
    · cases frames with
      | block inner within => exact ⟨.block inner within, inside.grown⟩
    · exact inside
  · exact inside

end Recording

end Inside

end ScanState

/-! ## Opening and closing blocks inside a procedure -/

/-- Of two pairs of searches that find related things, the first to find
something counts on both sides. -/
theorem rel_orElse {α β : Type} {R : α → β → Prop} {left? right? : Option α}
    {left?' right?' : Option β} (left : Option.Rel R left? left?')
    (right : Option.Rel R right? right?') :
    Option.Rel R (left? <|> right?) (left?' <|> right?') := by
  cases left with
  | some related => exact .some related
  | none => exact right

namespace ScanState

/-- What comes of a statement that opens a block: the state is inside the
procedure when the block is an inner one. -/
def Brings (outer : ScanState) (heading : Procedure) (lines : List Nat) :
    Option OpenBlock → Option ScanState → Prop :=
  Option.Rel fun block after => block.IsInner → ∃ count, Inside outer heading lines count after

namespace Inside

variable {outer state : ScanState} {heading : Procedure} {lines : List Nat} {count : Nat}

theorem brings_getD {block? : Option OpenBlock} {after? : Option ScanState} {plain : ScanState}
    (brings : Brings outer heading lines block? after?)
    (inner : ∀ block ∈ block?, block.IsInner) (inside : Inside outer heading lines count plain) :
    ∃ count, Inside outer heading lines count (after?.getD plain) := by
  cases brings with
  | some found => exact found (inner _ rfl)
  | none => exact ⟨count, inside⟩

section Opening

variable (first : Token) (rest : List Token)

theorem brings_openUnit? (state : ScanState) :
    Brings outer heading lines ((Statement.unitHeading? (first :: rest)).map fun (kind, name) =>
      ⟨first, .unit kind, name.text⟩) (state.openUnit? (first :: rest)) := by
  unfold openUnit?
  cases Statement.unitHeading? (first :: rest) with
  | none => exact .none
  | some heading =>
    apply Option.Rel.some
    intro inner
    cases inner.1

theorem brings_openProcedure? (state : ScanState) :
    Brings outer heading lines ((Statement.header? (first :: rest)).map fun header =>
        ⟨first, .procedure header.kind, header.name.text⟩)
      (state.openProcedure? (first :: rest)) := by
  unfold openProcedure?
  cases Statement.header? (first :: rest) with
  | none => exact .none
  | some header =>
    apply Option.Rel.some
    intro inner
    cases inner.1

variable (inside : Inside outer heading lines count state)

include inside

theorem brings_openInterface? :
    Brings outer heading lines ((Statement.interfaceHeading? (first :: rest)).map fun block =>
      ⟨block.token, .interface, block.name.getD ""⟩) (state.openInterface? (first :: rest)) := by
  unfold openInterface?
  cases Statement.interfaceHeading? (first :: rest) with
  | none => exact .none
  | some block => exact .some fun inner => ⟨_, inside.push inner⟩

theorem brings_openType? :
    Brings outer heading lines ((Statement.typeHeading? (first :: rest)).map fun derivedType =>
      ⟨first, .derivedType, derivedType.name⟩) (state.openType? (first :: rest)) := by
  unfold openType?
  cases Statement.typeHeading? (first :: rest) with
  | none => exact .none
  | some derivedType =>
    exact .some fun inner =>
      ⟨_, (inside.mapNode (ScopeNode.keepsHeading_mapUnit _)).push inner⟩

theorem brings_openConstruct? :
    Brings outer heading lines ((Statement.construct? (first :: rest)).map fun kind =>
      ⟨first, .construct kind, kind.word⟩) (state.openConstruct? (first :: rest)) := by
  unfold openConstruct?
  cases Statement.construct? (first :: rest) with
  | none => exact .none
  | some kind =>
    apply Option.Rel.some
    intro inner
    dsimp only
    split
    · exact ⟨_, inside.push inner⟩
    · exact ⟨_, (inside.recordExecutable _).push inner⟩

end Opening

/-- What opens a block in a body opens an inner one. -/
theorem recordInside {first : Token} {rest : List Token}
    (inside : Inside outer heading lines count state)
    (inner : ∀ block ∈ Statement.opened? (state.blocks.head?.map (·.kind)) (first :: rest),
      block.IsInner) :
    ∃ after, Inside outer heading lines after (state.recordInside (first :: rest)) := by
  have construct := brings_openConstruct? first rest inside
  have derivedType := rel_orElse (brings_openType? first rest inside) construct
  have interface := rel_orElse (brings_openInterface? first rest inside) derivedType
  have procedure := rel_orElse (brings_openProcedure? first rest state) interface
  have programUnit := rel_orElse (brings_openUnit? first rest state) procedure
  have notEnum : state.blocks.head?.map (·.kind) ≠ some (.construct .enumeration) :=
    inside.frames.head?_ne
  simp only [ScanState.recordInside, Statement.opened?, head?_kind] at inner ⊢
  generalize state.blocks.head?.map (·.kind) = innermost at inner notEnum ⊢
  rcases innermost with _ | kind | kind | _ | _ | kind
  · exact brings_getD programUnit inner (inside.recordPlain _)
  · exact brings_getD programUnit inner (inside.recordPlain _)
  · exact brings_getD programUnit inner (inside.recordPlain _)
  · exact brings_getD (brings_openProcedure? first rest state) inner (inside.recordMember _)
  · exact ⟨count, inside⟩
  · cases kind with
    | enumeration => contradiction
    | _ => exact brings_getD programUnit inner (inside.recordPlain _)

theorem closeTop (inside : Inside outer heading lines (count + 1) state) (endLine : Nat) :
    Inside outer heading lines count (state.closeTop endLine) := by
  obtain ⟨frames, units, external, topLevel, misplacedUses, errors, depths⟩ := state
  obtain ⟨frames_inside, grown⟩ := inside
  cases frames_inside with
  | @block frame _ rest inner within =>
    cases frame with
    | scope scope => exact absurd inner (Frame.not_isInner_scope scope)
    | interface _ block =>
      exact ⟨within.mapNode (ScopeNode.keepsHeading_addInterface block), grown⟩
    | derivedType _ _ => exact ⟨within, grown⟩
    | construct _ _ => exact ⟨within, grown⟩

theorem closeAbove (line : Nat) {above : Nat}
    (inside : Inside outer heading lines (count + above) state) :
    Inside outer heading lines count (state.closeAbove line above) := by
  induction above generalizing state with
  | zero => exact inside
  | succ above ih =>
    unfold ScanState.closeAbove
    split
    · rename_i frames_eq
      have frames := inside.frames
      rw [frames_eq] at frames
      nomatch frames
    · exact ih ((inside.report _ _).closeTop line)

/-- A closing statement that closes no scope closes blocks inside. -/
theorem close {closer : Statement.Closer} (inside : Inside outer heading lines count state)
    (inner : ∀ block ∈ OpenBlock.target? closer.kind state.blocks, block.kind.isScope = false)
    (first last : Token) :
    ∃ after, Inside outer heading lines after (state.close closer first last) := by
  unfold ScanState.close
  split
  · exact ⟨count, inside.report _ _⟩
  · rename_i above found
    have narrow : closer.kind.any (!·.isScope) = true := by
      have target_eq := (Frames.reach?_eq closer.kind state.frames).symm.trans found
      obtain ⟨block, block_eq, -⟩ := Option.map_eq_some_iff.mp target_eq
      have plain := inner block block_eq
      rcases OpenBlock.isClosedBy_iff.mp (OpenBlock.eq_above_append_of_target? block_eq).1 with
        kind_eq | ⟨-, scope⟩
      · simp [kind_eq, plain]
      · rw [plain] at scope
        contradiction
    obtain ⟨left, rfl⟩ := Nat.exists_eq_add_of_lt (inside.frames.lt_of_reach? narrow found)
    have opened : Inside outer heading lines (left + 1 + above) state := by
      rwa [show above + left + 1 = left + 1 + above by omega] at inside
    have closed := opened.closeAbove first.line
    dsimp only
    generalize state.closeAbove first.line above = closing at closed ⊢
    split
    · exact ⟨left, closed.closeTop _⟩
    · split
      · exact ⟨left, (closed.report _ _).closeTop _⟩
      · exact ⟨left, closed.closeTop _⟩

/-! ## The whole body -/

/-- A statement that stays inside leaves the state inside. -/
theorem step {statement : List Token} (inside : Inside outer heading lines count state)
    (confines : state.Confines statement)
    (starts : ∀ token ∈ statement.head?, token.line ∈ lines) :
    ∃ after, Inside outer heading lines after (state.step statement) := by
  unfold Confines at confines
  simp only [mark?, Statement.mark?, ScanState.step] at confines ⊢
  cases unlabelled_eq : Statement.unlabelled statement with
  | nil => cases statement <;> exact ⟨count, inside⟩
  | cons first rest =>
    cases statement with
    | nil => contradiction
    | cons label others =>
      rw [unlabelled_eq] at confines
      have mem := starts label rfl
      dsimp only at confines ⊢
      split at confines
      · rename_i assigns
        rw [if_pos assigns]
        exact ⟨count, (inside.recordDepth mem _).recordExecutable _⟩
      · rename_i assigns
        rw [if_neg assigns]
        cases closer_eq : Statement.closer? (first :: rest) with
        | some closer =>
          rw [closer_eq] at confines
          obtain ⟨after, closed⟩ := inside.close (confines _ rfl) first (rest.getLastD first)
          exact ⟨after, closed.recordDepth mem _⟩
        | none =>
          rw [closer_eq] at confines
          dsimp only at confines ⊢
          rw [head?_kind]
          split at confines
          · rename_i divides
            rw [if_pos divides]
            have divided := inside.recordDepth mem (state.depth - 1)
            split
            · exact ⟨count, divided.recordContains first⟩
            · exact ⟨count, divided⟩
          · rename_i divides
            rw [if_neg divides]
            apply (inside.recordDepth mem state.depth).recordInside
            intro block found
            exact confines _ (Option.map_eq_some_iff.mpr ⟨block, found, rfl⟩)

/-- Statements that stay inside leave the state inside. -/
theorem run {statements : List (List Token)} (inside : Inside outer heading lines count state)
    (confines : state.ConfinesAll statements) (starts : startLines statements ⊆ lines) :
    ∃ after, Inside outer heading lines after (state.run statements) := by
  induction statements generalizing state count with
  | nil => exact ⟨count, inside⟩
  | cons statement rest ih =>
    have own : ∀ token ∈ statement.head?, token.line ∈ lines := by
      intro token starting
      apply starts
      rw [startLines, List.mem_filterMap]
      exact ⟨statement, List.mem_cons_self, by rw [Option.mem_def.mp starting]; rfl⟩
    have others : startLines rest ⊆ lines := by
      intro line mem
      obtain ⟨statement', mem', line_eq⟩ := List.mem_filterMap.mp mem
      exact starts (List.mem_filterMap.mpr ⟨statement', List.mem_cons_of_mem _ mem', line_eq⟩)
    obtain ⟨after, stepped⟩ := inside.step confines.1 own
    exact ih stepped confines.2 others

end Inside

/-! ## The end of the procedure -/

theorem addUnits_nil (state : ScanState) : state.addUnits [] = state := by
  have same : Frames.mapScope (fun scope => { scope with nested := scope.nested ++ [] })
      state.frames = state.frames := by
    induction state.frames with
    | nil => rfl
    | cons frame rest ih =>
      cases frame with
      | scope scope => simp [Frames.mapScope]
      | _ => exact congrArg (_ :: ·) ih
  unfold addUnits
  split
  · exact congrArg (fun frames => { state with frames }) same
  · simp

theorem depth_addProcedure (state : ScanState) (procedure : Procedure) :
    (state.addProcedure procedure).depth = state.depth := by
  have blocks_eq := (keeps_addProcedure state procedure).blocks
  simpa [blocks, depth] using congrArg List.length blocks_eq

theorem recordDepth_addProcedure (state : ScanState) (procedure : Procedure) (token : Token)
    (depth : Nat) :
    (state.addProcedure procedure).recordDepth token depth =
      (state.recordDepth token depth).addProcedure procedure := by
  unfold addProcedure recordDepth
  split <;> simp_all

end ScanState

/-- A bare END, or the END of a kind of procedure, with any name behind it. -/
def Statement.Ends (kind : ProcedureKind) (statement : List Token) : Prop :=
  ∃ closer token, mark? none statement = some (.closes closer token) ∧
    (closer.kind = none ∨ closer.kind = some (.procedure kind))

namespace ScanState

namespace Inside

variable {outer state : ScanState} {heading : Procedure} {lines : List Nat} {count : Nat}

/-- The END of the procedure puts it into the block around it. -/
theorem close_end {closer : Statement.Closer} (inside : Inside outer heading lines count state)
    (ends : closer.kind = none ∨ closer.kind = some (.procedure heading.kind))
    (first last : Token) :
    ∃ procedure outer', procedure.heading = heading ∧ Grown lines outer outer' ∧
      state.close closer first last = outer'.addProcedure procedure := by
  have closeTop_eq {closing : ScanState} (bare : Inside outer heading lines 0 closing) :
      ∃ procedure outer', procedure.heading = heading ∧ Grown lines outer outer' ∧
        closing.closeTop last.line = outer'.addProcedure procedure := by
    obtain ⟨frames, units, external, topLevel, misplacedUses, errors, depths⟩ := closing
    obtain ⟨frames_inside, grown⟩ := bare
    cases frames_inside with
    | @scope opener node inSpecification heading_eq =>
      exact ⟨node.finish last.line, _, heading_eq, grown, addUnits_nil _⟩
  have bare : Inside outer heading lines 0 (state.closeAbove first.line count) := by
    apply closeAbove
    rwa [Nat.zero_add]
  rw [ScanState.close, inside.frames.reach?_eq ends]
  dsimp only
  generalize state.closeAbove first.line count = closing at bare ⊢
  split
  · exact closeTop_eq bare
  · split
    · exact closeTop_eq (bare.report _ _)
    · exact closeTop_eq bare

/-- The statement that ends the procedure stands at the depth of its header. -/
theorem step_end {label : Token} {others : List Token}
    (inside : Inside outer heading lines count state)
    (ends : Statement.Ends heading.kind (label :: others)) :
    ∃ procedure outer', procedure.heading = heading ∧ Grown lines outer outer' ∧
      state.step (label :: others) =
        (outer'.recordDepth label outer.depth).addProcedure procedure := by
  obtain ⟨closer, token, mark_eq, kind_eq⟩ := ends
  unfold Statement.mark? at mark_eq
  cases unlabelled_eq : Statement.unlabelled (label :: others) with
  | nil =>
    rw [unlabelled_eq] at mark_eq
    contradiction
  | cons first rest =>
    rw [unlabelled_eq] at mark_eq
    dsimp only at mark_eq
    split at mark_eq
    · contradiction
    · rename_i assigns
      cases closer_eq : Statement.closer? (first :: rest) with
      | none => simp [closer_eq, Statement.opened?] at mark_eq
      | some found =>
        rw [closer_eq] at mark_eq
        cases mark_eq
        obtain ⟨procedure, outer', heading_eq, grown, close_eq⟩ :=
          inside.close_end kind_eq token (rest.getLastD token)
        have depth_eq : outer'.depth = outer.depth := congrArg List.length grown.frames
        refine ⟨procedure, outer', heading_eq, grown, ?_⟩
        simp only [ScanState.step, unlabelled_eq, assigns, closer_eq]
        rw [if_neg Bool.false_ne_true, close_eq, depth_addProcedure, depth_eq,
          recordDepth_addProcedure]

end Inside

/-- A body and its END add the procedure to the block around it, and otherwise
errors, misplaced USE statements and depths. -/
theorem exists_run_step_eq {state : ScanState} {opener label : Token} {node : Procedure}
    {inSpecification : Bool} {below : List Frame} {body : List (List Token)} {others : List Token}
    (top : state.frames = .scope ⟨opener, .procedure node, inSpecification, []⟩ :: below)
    (confines : state.ConfinesAll body) (ends : Statement.Ends node.kind (label :: others)) :
    ∃ procedure outer, procedure.heading = node.heading ∧
      Grown (startLines body) { state with frames := below } outer ∧
      (state.run body).step (label :: others) =
        (outer.recordDepth label below.length).addProcedure procedure := by
  have inside : Inside { state with frames := below } node.heading (startLines body) 0 state := by
    refine ⟨?_, .refl _ _⟩
    rw [top]
    exact .scope opener inSpecification rfl
  obtain ⟨count, ran⟩ := inside.run confines (List.Subset.refl _)
  exact ran.step_end ends

end ScanState

end FortranStyle
