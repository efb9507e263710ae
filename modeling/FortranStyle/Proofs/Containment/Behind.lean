import FortranStyle.Proofs.Containment.Alike
import FortranStyle.Proofs.Containment.Body

/-!
# What follows a procedure

Scans that differ in the contents of one procedure that has ended stay alike:
every statement behind it finds, opens, closes and records the same.  So nothing
that is recovered behind a procedure depends on its body.
-/

namespace FortranStyle

/-! ## States that differ in one procedure -/

/-- What relates procedures that take the same place: they have one name, and the
relation holds on when a unit sets their visibility, and for what holds them. -/
structure Procedure.IsLikeness (R : Procedure → Procedure → Prop) : Prop where
  same : ∀ node, R node node
  token_eq : ∀ {node node'}, R node node' → node'.token = node.token
  withVisibility : ∀ {node node'} (visibility : Visibility), R node node' →
    R { node with visibility } { node' with visibility }
  holding : ∀ {node node'}, Procedure.Holds R node node' → R node node'

theorem Procedure.isLikeness_alike {first second : Procedure}
    (token_eq : second.token = first.token) : IsLikeness (Procedure.Alike first second) where
  same := .same
  token_eq := by
    rintro node node' (_ | _ | ⟨⟨_⟩⟩)
    · rfl
    · exact token_eq
    · rfl
  withVisibility := by
    rintro node node' visibility (_ | _ | ⟨⟨node, children_alike, interfaces_alike⟩⟩)
    · exact .same _
    · exact .swapped visibility
    · exact .holding (.intro { node with visibility } children_alike interfaces_alike)
  holding := .holding

theorem Procedure.Alike.of_visibility_eq {first second : Procedure}
    (visibility_eq : second.visibility = first.visibility) :
    Procedure.Alike first second first second := by
  cases first
  cases second
  cases visibility_eq
  exact .swapped _

/-- The procedures inside have the same names. -/
theorem Procedure.IsLikeness.map_lowerName {R : Procedure → Procedure → Prop}
    (likeness : IsLikeness R) {interfaces interfaces' : List Interface}
    (related : List.Forall₂ (InterfaceBlock.Alike R) interfaces interfaces') :
    (interfaces'.flatMap fun block => block.bodies.map (·.lowerName)) =
      interfaces.flatMap fun block => block.bodies.map (·.lowerName) := by
  induction related with
  | nil => rfl
  | cons block _ ih =>
    rw [List.flatMap_cons, List.flatMap_cons, ih]
    obtain ⟨name, token, isAbstract, moduleProcedures, bodies_alike⟩ := block
    congr 1
    induction bodies_alike with
    | nil => rfl
    | cons body _ ih =>
      rw [List.map_cons, List.map_cons, ih, lowerName, likeness.token_eq body, lowerName]

theorem Procedure.Holds.finish {R : Procedure → Procedure → Prop} (likeness : IsLikeness R)
    {node node' : Procedure} (holds : node.Holds R node') (endLine : Nat) :
    (node.finish endLine).Holds R (node'.finish endLine) := by
  obtain @⟨node, children, _, interfaces, _, children_alike, interfaces_alike⟩ := holds
  have names_eq := likeness.map_lowerName interfaces_alike
  simp only [Procedure.finish, holding, names_eq]
  exact .intro ((node.holding children interfaces).finish endLine) children_alike interfaces_alike

theorem ProgramUnit.Holds.finish {R : Procedure → Procedure → Prop}
    (likeness : Procedure.IsLikeness R) {node node' : ProgramUnit} (holds : node.Holds R node')
    (endLine : Nat) : (node.finish endLine).Holds R (node'.finish endLine) := by
  obtain ⟨node, procedures_alike, interfaces_alike⟩ := holds
  refine .intro { node with endLine } (List.rel_map ?_ procedures_alike) interfaces_alike
  intro procedure procedure' related
  have name_eq : procedure'.name = procedure.name :=
    congrArg Token.text (likeness.token_eq related)
  dsimp only
  rw [name_eq]
  exact likeness.withVisibility (node.visibilityOf procedure.name) related

theorem InterfaceBlock.Alike.refl {R : Procedure → Procedure → Prop}
    (likeness : Procedure.IsLikeness R) (block : Interface) : block.Alike R block :=
  .intro block.name block.token block.isAbstract block.moduleProcedures
    (List.forall₂_same.mpr fun node _ => likeness.same node)

theorem ProgramUnit.Holds.refl {R : Procedure → Procedure → Prop}
    (likeness : Procedure.IsLikeness R) (node : ProgramUnit) : node.Holds R node := by
  have procedures_alike := List.forall₂_same.mpr
    fun (procedure : Procedure) (_ : procedure ∈ node.procedures) => likeness.same procedure
  have interfaces_alike := List.forall₂_same.mpr
    fun (block : Interface) (_ : block ∈ node.interfaces) =>
      InterfaceBlock.Alike.refl likeness block
  exact .intro node procedures_alike interfaces_alike

theorem Procedure.Holds.refl {R : Procedure → Procedure → Prop}
    (likeness : Procedure.IsLikeness R) (node : Procedure) : node.Holds R node := by
  have children_alike := List.forall₂_same.mpr
    fun (child : Procedure) (_ : child ∈ node.children) => likeness.same child
  have interfaces_alike := List.forall₂_same.mpr
    fun (block : Interface) (_ : block ∈ node.interfaces) =>
      InterfaceBlock.Alike.refl likeness block
  have holds := Procedure.Holds.intro node children_alike interfaces_alike
  rwa [show node.holding node.children node.interfaces = node by cases node; rfl] at holds

theorem Frame.Alike.refl {R : Procedure → Procedure → Prop}
    (likeness : Procedure.IsLikeness R) (frame : Frame) : frame.Alike R frame := by
  cases frame with
  | scope scope =>
    obtain ⟨opener, node, inSpecification, nested⟩ := scope
    refine .scope (.intro opener inSpecification ?_ ?_)
    · cases node with
      | programUnit node => exact .programUnit (.refl likeness node)
      | procedure node => exact .procedure (.refl likeness node)
    · exact List.forall₂_same.mpr fun node _ => .refl likeness node
  | interface opener block => exact .interface opener (.refl likeness block)
  | derivedType opener name => exact .derivedType opener name
  | construct opener kind => exact .construct opener kind

/-- What a procedure takes from the block around it at its start is no procedure. -/
theorem Procedure.begin_eq {R : Procedure → Procedure → Prop} (header : Statement.Header)
    (startLine : Nat) {holder? holder?' : Option Frame}
    (holders : Option.Rel (Frame.Alike R) holder? holder?') :
    Procedure.begin header startLine holder?' = Procedure.begin header startLine holder? := by
  cases holders with
  | none => rfl
  | some frame =>
    cases frame with
    | scope scope =>
      obtain ⟨opener, inSpecification, node_alike, -⟩ := scope
      cases node_alike with
      | programUnit holds =>
        cases holds
        rfl
      | procedure _ => rfl
    | interface _ _ => rfl
    | derivedType _ _ => rfl
    | construct _ _ => rfl

/-- Two lists have grown by the same items. -/
def GrownAlike {α : Type} (start start' now now' : List α) : Prop :=
  ∃ later, now = start ++ later ∧ now' = start' ++ later

theorem GrownAlike.append {α : Type} {start start' now now' : List α}
    (grown : GrownAlike start start' now now') (items : List α) :
    GrownAlike start start' (now ++ items) (now' ++ items) := by
  obtain ⟨later, rfl, rfl⟩ := grown
  exact ⟨later ++ items, by simp, by simp⟩

namespace ScanState

/-- States that are the same up to related procedures, and that have recorded the
same errors, misplaced USE statements and depths since `start` and `start'`. -/
structure Alike (R : Procedure → Procedure → Prop) (start start' state state' : ScanState) :
    Prop where
  frames : List.Forall₂ (Frame.Alike R) state.frames state'.frames
  units : List.Forall₂ (ProgramUnit.Holds R) state.units state'.units
  external : List.Forall₂ R state.external state'.external
  topLevel : state'.topLevel = state.topLevel
  misplacedUses : GrownAlike start.misplacedUses start'.misplacedUses state.misplacedUses
    state'.misplacedUses
  errors : GrownAlike start.errors start'.errors state.errors state'.errors
  depths : GrownAlike start.depths.reverse start'.depths.reverse state.depths.reverse
    state'.depths.reverse

/-- The names that a statement adds to an interface block depend on the statement
alone. -/
theorem exists_recordMember_eq (tokens : List Token) :
    ∃ names, ∀ (state : ScanState) {opener : Token} {block : Interface} {rest : List Frame},
      state.frames = .interface opener block :: rest →
        state.recordMember tokens =
          { state with
            frames := .interface opener
              { block with moduleProcedures := block.moduleProcedures ++ names } :: rest } := by
  have plain {state : ScanState} {opener : Token} {block : Interface} {rest : List Frame}
      (frames_eq : state.frames = .interface opener block :: rest) :
      state = { state with
        frames := .interface opener
          { block with moduleProcedures := block.moduleProcedures ++ [] } :: rest } := by
    rw [List.append_nil, ← frames_eq]
  -- The statement as it is read: MODULE PROCEDURE counts as PROCEDURE.
  have read (statement : List Token) (isMember : Bool)
      (reads : ∀ (state : ScanState) {opener : Token} {block : Interface} {rest : List Frame},
        state.frames = .interface opener block :: rest →
          state.recordMember tokens =
            if isMember then
              { state with
                frames := .interface opener
                  { block with moduleProcedures := block.moduleProcedures ++
                    (Statement.listedNames statement).map (·.lower) } :: rest }
            else
              state) :
      ∃ names, ∀ (state : ScanState) {opener : Token} {block : Interface} {rest : List Frame},
        state.frames = .interface opener block :: rest →
          state.recordMember tokens =
            { state with
              frames := .interface opener
                { block with moduleProcedures := block.moduleProcedures ++ names } :: rest } := by
    cases isMember with
    | true =>
      exact ⟨(Statement.listedNames statement).map Token.lower, fun state _ _ _ frames_eq =>
        (reads state frames_eq).trans (if_pos rfl)⟩
    | false =>
      exact ⟨[], fun state _ _ _ frames_eq => (reads state frames_eq).trans (plain frames_eq)⟩
  rcases tokens with _ | ⟨first, _ | ⟨second, rest⟩⟩
  · exact ⟨[], fun _ _ _ _ frames_eq => plain frames_eq⟩
  · exact read [first] (first.isWord "procedure") fun state _ _ _ frames_eq => by
      simp only [recordMember, frames_eq]
  · cases isModule : first.isWord "module" with
    | true =>
      exact read (second :: rest) (second.isWord "procedure") fun state _ _ _ frames_eq => by
        simp only [recordMember, isModule, if_true, frames_eq]
    | false =>
      exact read (first :: second :: rest) (first.isWord "procedure")
        fun state _ _ _ frames_eq => by
        simp [recordMember, isModule, frames_eq]

namespace Alike

variable {R : Procedure → Procedure → Prop} {start start' state state' : ScanState}

theorem blocks_eq (alike : Alike R start start' state state') : state'.blocks = state.blocks :=
  Frames.map_block_eq alike.frames

theorem depth_eq (alike : Alike R start start' state state') : state'.depth = state.depth :=
  alike.frames.length_eq.symm

section Recording

variable (alike : Alike R start start' state state')

include alike

theorem report (cause : StructuralCause) (token : Token) :
    Alike R start start' (state.report cause token) (state'.report cause token) where
  __ := alike
  errors := alike.errors.append _

theorem recordDepth (token : Token) (depth : Nat) :
    Alike R start start' (state.recordDepth token depth) (state'.recordDepth token depth) where
  __ := alike
  depths := by
    have grown := alike.depths.append [(token.line, depth)]
    rwa [← List.reverse_cons, ← List.reverse_cons] at grown

theorem announce (heading : Heading) :
    Alike R start start' { state with topLevel := state.topLevel ++ [heading] }
      { state' with topLevel := state'.topLevel ++ [heading] } where
  __ := alike
  topLevel := by rw [alike.topLevel]

theorem withFrames {frames frames' : List Frame}
    (related : List.Forall₂ (Frame.Alike R) frames frames') :
    Alike R start start' { state with frames } { state' with frames := frames' } where
  __ := alike
  frames := related

theorem push {frame frame' : Frame} (top : frame.Alike R frame') :
    Alike R start start' (state.push frame) (state'.push frame') :=
  alike.withFrames (.cons top alike.frames)

theorem mapNode {f : ScopeNode → ScopeNode} (respects : ScopeNode.Respects R f) :
    Alike R start start' (state.mapNode f) (state'.mapNode f) :=
  alike.withFrames (Frames.mapNode_alike respects alike.frames)

theorem mapUnit {f : ProgramUnit → ProgramUnit} (blind : ProgramUnit.Blind f) :
    Alike R start start' (state.mapNode (·.mapUnit f)) (state'.mapNode (·.mapUnit f)) :=
  alike.mapNode (ScopeNode.respects_mapUnit blind)

theorem mapProcedure {f : Procedure → Procedure} (blind : Procedure.Blind f) :
    Alike R start start' (state.mapProcedure f) (state'.mapProcedure f) :=
  alike.mapNode (ScopeNode.respects_mapProcedure blind)

theorem mapSpecification (f : Specification → Specification) :
    Alike R start start' (state.mapNode (·.mapSpecification f))
      (state'.mapNode (·.mapSpecification f)) :=
  alike.mapNode (ScopeNode.respects_mapSpecification f)

theorem recordExecutable (tokens : List Token) :
    Alike R start start' (state.recordExecutable tokens) (state'.recordExecutable tokens) := by
  have ended : Alike R start start'
      (state.mapFrames (Frames.mapScope fun scope => { scope with inSpecification := false }))
      (state'.mapFrames
        (Frames.mapScope fun scope => { scope with inSpecification := false })) := by
    apply alike.withFrames
    apply Frames.mapScope_alike _ alike.frames
    rintro scope scope' ⟨opener, inSpecification, node_alike, nested_alike⟩
    exact .intro opener false node_alike nested_alike
  unfold ScanState.recordExecutable
  cases Statement.action? tokens with
  | none => exact ended
  | some action => exact ended.mapProcedure fun _ _ _ => rfl

/-- Both states are in a specification part or neither is. -/
theorem any_inSpecification_eq :
    (Frames.scope? state'.frames).any (·.inSpecification) =
      (Frames.scope? state.frames).any (·.inSpecification) := by
  have scopes := Frames.rel_scope? alike.frames
  generalize Frames.scope? state.frames = scope? at scopes ⊢
  generalize Frames.scope? state'.frames = scope?' at scopes ⊢
  cases scopes with
  | none => rfl
  | some scopes =>
    cases scopes
    rfl

theorem recordUse (tokens : List Token) :
    Alike R start start' (state.recordUse tokens) (state'.recordUse tokens) := by
  unfold ScanState.recordUse
  rw [alike.any_inSpecification_eq]
  cases Use.ofStatement? tokens with
  | none => exact alike
  | some found =>
    dsimp only
    split
    · exact alike.mapSpecification _
    · exact { alike with misplacedUses := alike.misplacedUses.append _ }

theorem recordImplicit (tokens : List Token) :
    Alike R start start' (state.recordImplicit tokens) (state'.recordImplicit tokens) := by
  unfold ScanState.recordImplicit
  rw [alike.any_inSpecification_eq]
  split
  · exact alike.mapSpecification _
  · exact alike

theorem recordDeclaration (tokens : List Token) :
    Alike R start start' (state.recordDeclaration tokens) (state'.recordDeclaration tokens) := by
  simp only [ScanState.recordDeclaration]
  have units := Frames.rel_programUnit? alike.frames
  generalize Frames.programUnit? state.frames = unit? at units ⊢
  generalize Frames.programUnit? state'.frames = unit?' at units ⊢
  cases units with
  | none => exact alike.mapNode (ScopeNode.respects_declare _ _)
  | some holds =>
    cases holds
    exact alike.mapNode (ScopeNode.respects_declare _ _)

theorem recordAccess (visibility : Visibility) (word : Token) (rest : List Token) :
    Alike R start start' (state.recordAccess visibility word rest)
      (state'.recordAccess visibility word rest) := by
  apply alike.mapUnit
  intro node procedures interfaces
  have kind_eq : (node.holding procedures interfaces).isModule = node.isModule := rfl
  simp only [kind_eq]
  split
  · exact ProgramUnit.blind_recordAccess _ _ _ node procedures interfaces
  · rfl

theorem recordIntent (tokens : List Token) :
    Alike R start start' (state.recordIntent tokens) (state'.recordIntent tokens) := by
  simp only [ScanState.recordIntent]
  split
  · exact alike.mapProcedure fun _ _ _ => rfl
  · exact alike

theorem recordPlain (tokens : List Token) :
    Alike R start start' (state.recordPlain tokens) (state'.recordPlain tokens) := by
  cases tokens with
  | nil => exact alike
  | cons first rest =>
    simp only [ScanState.recordPlain]
    split_ifs
    · exact alike.recordUse _
    · exact alike.recordImplicit _
    · exact alike.recordDeclaration _
    · exact alike.recordAccess _ _ _
    · exact alike.recordAccess _ _ _
    · exact alike.recordIntent _
    · exact alike.mapSpecification _
    · exact alike.mapProcedure fun _ _ _ => rfl
    · exact alike
    · exact alike.recordExecutable _

theorem recordContains (token : Token) :
    Alike R start start' (state.recordContains token) (state'.recordContains token) := by
  have frames := alike.frames
  unfold ScanState.recordContains
  generalize state.frames = found at frames ⊢
  generalize state'.frames = found' at frames ⊢
  cases frames with
  | nil => exact alike
  | cons top rest =>
    cases top with
    | scope scope =>
      obtain ⟨opener, inSpecification, node_alike, nested_alike⟩ := scope
      have blind : ProgramUnit.Blind fun node => { node with containsLine := some token.line } :=
        fun _ _ _ => rfl
      have marked := ScopeNode.respects_mapUnit blind node_alike
      exact alike.withFrames (.cons (.scope (.intro opener false marked nested_alike)) rest)
    | interface _ _ => exact alike
    | derivedType _ _ => exact alike
    | construct _ _ => exact alike

theorem recordMember (tokens : List Token) :
    Alike R start start' (state.recordMember tokens) (state'.recordMember tokens) := by
  obtain ⟨names, names_eq⟩ := exists_recordMember_eq tokens
  obtain ⟨frames, units, external, topLevel, misplacedUses, errors, depths⟩ := state
  obtain ⟨frames', units', external', topLevel', misplacedUses', errors', depths'⟩ := state'
  have related := alike.frames
  dsimp only at related
  cases related with
  | nil => rwa [recordMember_eq_self (by simp), recordMember_eq_self (by simp)]
  | cons top rest =>
    cases top with
    | interface opener block =>
      obtain ⟨name, token, isAbstract, moduleProcedures, bodies_alike⟩ := block
      rw [names_eq _ rfl, names_eq _ rfl]
      exact alike.withFrames (.cons (.interface opener
        (.intro name token isAbstract (moduleProcedures ++ names) bodies_alike)) rest)
    | scope _ => rwa [recordMember_eq_self (by simp), recordMember_eq_self (by simp)]
    | derivedType _ _ => rwa [recordMember_eq_self (by simp), recordMember_eq_self (by simp)]
    | construct _ _ => rwa [recordMember_eq_self (by simp), recordMember_eq_self (by simp)]

theorem recordEnumerators (tokens : List Token) :
    Alike R start start' (state.recordEnumerators tokens) (state'.recordEnumerators tokens) := by
  unfold ScanState.recordEnumerators
  split
  · exact alike.withFrames (Frames.mapProgramUnit_alike (fun _ _ _ => rfl) alike.frames)
  · exact alike

end Recording

section Closing

variable (likeness : Procedure.IsLikeness R) (alike : Alike R start start' state state')

include alike

theorem addUnits {units units' : List ProgramUnit}
    (related : List.Forall₂ (ProgramUnit.Holds R) units units') :
    Alike R start start' (state.addUnits units) (state'.addUnits units') := by
  have scopes := Frames.rel_scope? alike.frames
  unfold ScanState.addUnits
  generalize Frames.scope? state.frames = scope? at scopes ⊢
  generalize Frames.scope? state'.frames = scope?' at scopes ⊢
  cases scopes with
  | none => exact { alike with units := List.rel_append alike.units related }
  | some _ =>
    apply alike.withFrames
    apply Frames.mapScope_alike _ alike.frames
    rintro scope scope' ⟨opener, inSpecification, node_alike, nested_alike⟩
    exact .intro opener inSpecification node_alike (List.rel_append nested_alike related)

theorem addProcedure {child child' : Procedure} (related : R child child') :
    Alike R start start' (state.addProcedure child) (state'.addProcedure child') := by
  have attached := Frames.rel_attach? related alike.frames
  unfold ScanState.addProcedure
  generalize Frames.attach? child state.frames = frames? at attached ⊢
  generalize Frames.attach? child' state'.frames = frames?' at attached ⊢
  cases attached with
  | none => exact { alike with external := List.rel_append alike.external (.cons related .nil) }
  | some frames => exact alike.withFrames frames

include likeness

theorem closeTop (endLine : Nat) :
    Alike R start start' (state.closeTop endLine) (state'.closeTop endLine) := by
  obtain ⟨frames, units, external, topLevel, misplacedUses, errors, depths⟩ := state
  obtain ⟨frames', units', external', topLevel', misplacedUses', errors', depths'⟩ := state'
  have related := alike.frames
  dsimp only at related
  cases related with
  | nil => exact alike
  | cons top rest =>
    have below := alike.withFrames rest
    cases top with
    | scope scope =>
      obtain ⟨opener, inSpecification, node_alike, nested_alike⟩ := scope
      cases node_alike with
      | programUnit holds =>
          exact below.addUnits (.cons (holds.finish likeness endLine) nested_alike)
      | procedure holds =>
        exact (below.addProcedure (likeness.holding (holds.finish likeness endLine))).addUnits
          nested_alike
    | interface opener block =>
      exact below.withFrames
        (Frames.mapNode_alike (fun _ _ node_alike => node_alike.addInterface block) rest)
    | derivedType _ _ => exact below
    | construct _ _ => exact below

theorem closeAbove (line count : Nat) :
    Alike R start start' (state.closeAbove line count) (state'.closeAbove line count) := by
  induction count generalizing state state' with
  | zero => exact alike
  | succ count ih =>
    have related := alike.frames
    unfold ScanState.closeAbove
    generalize frames_eq : state.frames = frames at related ⊢
    generalize frames_eq' : state'.frames = frames' at related ⊢
    cases related with
    | nil => exact alike
    | @cons frame frame' _ _ top _ =>
      have block_eq := top.block_eq
      have kind_eq : frame'.kind = frame.kind := congrArg OpenBlock.kind block_eq
      have opener_eq : frame'.opener = frame.opener := congrArg OpenBlock.opener block_eq
      dsimp only
      rw [kind_eq, opener_eq]
      exact ih ((alike.report _ _).closeTop likeness line)

theorem closeAll (lastLine count : Nat) :
    Alike R start start' (state.closeAll lastLine count) (state'.closeAll lastLine count) := by
  induction count generalizing state state' with
  | zero => exact alike
  | succ count ih =>
    have related := alike.frames
    unfold ScanState.closeAll
    generalize frames_eq : state.frames = frames at related ⊢
    generalize frames_eq' : state'.frames = frames' at related ⊢
    cases related with
    | nil => exact alike
    | @cons frame frame' _ _ top _ =>
      have block_eq := top.block_eq
      have kind_eq : frame'.kind = frame.kind := congrArg OpenBlock.kind block_eq
      have name_eq : frame'.name = frame.name := congrArg OpenBlock.name block_eq
      have opener_eq : frame'.opener = frame.opener := congrArg OpenBlock.opener block_eq
      dsimp only
      rw [kind_eq, name_eq, opener_eq]
      exact ih ((alike.report _ _).closeTop likeness lastLine)

theorem close (closer : Statement.Closer) (first last : Token) :
    Alike R start start' (state.close closer first last) (state'.close closer first last) := by
  have reach_eq : Frames.reach? closer.kind state'.frames =
      Frames.reach? closer.kind state.frames := by
    rw [Frames.reach?_eq, Frames.reach?_eq, Frames.map_block_eq alike.frames]
  unfold ScanState.close
  rw [reach_eq]
  cases Frames.reach? closer.kind state.frames with
  | none => exact alike.report _ _
  | some count =>
    have closing := alike.closeAbove likeness first.line count
    dsimp only
    generalize state.closeAbove first.line count = closed at closing ⊢
    generalize state'.closeAbove first.line count = closed' at closing ⊢
    have related := closing.frames
    generalize closed.frames = frames at related ⊢
    generalize closed'.frames = frames' at related ⊢
    cases related with
    | nil => exact closing.closeTop likeness _
    | @cons frame frame' _ _ top _ =>
      have block_eq := top.block_eq
      have kind_eq : frame'.kind = frame.kind := congrArg OpenBlock.kind block_eq
      have name_eq : frame'.name = frame.name := congrArg OpenBlock.name block_eq
      dsimp only
      rw [endMismatch?_eq, endMismatch?_eq, block_eq, kind_eq, name_eq]
      split
      · exact (closing.report _ _).closeTop likeness _
      · exact closing.closeTop likeness _

end Closing

/-! ## Opening blocks -/

section Opening

variable (alike : Alike R start start' state state') (tokens : List Token)

include alike

theorem rel_openUnit? :
    Option.Rel (Alike R start start') (state.openUnit? tokens) (state'.openUnit? tokens) := by
  cases tokens with
  | nil => exact .none
  | cons first rest =>
    unfold openUnit?
    cases Statement.unitHeading? (first :: rest) with
    | none => exact .none
    | some heading =>
      apply Option.Rel.some
      dsimp only
      have scopes := Frames.rel_scope? alike.frames
      generalize Frames.scope? state.frames = scope? at scopes ⊢
      generalize Frames.scope? state'.frames = scope?' at scopes ⊢
      have top : (Frame.scope ⟨first, .programUnit
          (ProgramUnit.begin heading.1 heading.2 first.line), true, []⟩).Alike R
          (.scope ⟨first, .programUnit
            (ProgramUnit.begin heading.1 heading.2 first.line), true, []⟩) :=
        .scope (.intro first true
          (.programUnit
            (.intro (ProgramUnit.begin heading.1 heading.2 first.line) .nil .nil)) .nil)
      cases scopes with
      | none => exact (alike.announce _).push top
      | @some outer outer' scopes =>
        have block_eq := (Frame.Alike.scope scopes).block_eq
        have kind_eq : outer'.node.kind = outer.node.kind := congrArg OpenBlock.kind block_eq
        have name_eq : outer'.node.name = outer.node.name := congrArg OpenBlock.name block_eq
        dsimp only
        rw [kind_eq, name_eq]
        exact (alike.report _ _).push top

theorem rel_openProcedure? :
    Option.Rel (Alike R start start') (state.openProcedure? tokens)
      (state'.openProcedure? tokens) := by
  cases tokens with
  | nil => exact .none
  | cons first rest =>
    unfold openProcedure?
    cases Statement.header? (first :: rest) with
    | none => exact .none
    | some header =>
      apply Option.Rel.some
      dsimp only
      have holders := Frames.rel_holder? alike.frames
      generalize Frames.holder? state.frames = holder? at holders ⊢
      generalize Frames.holder? state'.frames = holder?' at holders ⊢
      have begin_eq := Procedure.begin_eq header first.line holders
      have top : (Frame.scope ⟨first, .procedure (Procedure.begin header first.line holder?),
            true, []⟩).Alike R
          (.scope ⟨first, .procedure (Procedure.begin header first.line holder?), true, []⟩) :=
        .scope (.intro first true
          (.procedure (.intro (Procedure.begin header first.line holder?) .nil .nil)) .nil)
      rw [begin_eq]
      cases holders with
      | none => exact (alike.announce _).push top
      | some _ => exact alike.push top

theorem rel_openInterface? :
    Option.Rel (Alike R start start') (state.openInterface? tokens)
      (state'.openInterface? tokens) := by
  have heading_empty {block : Interface}
    (found : Statement.interfaceHeading? tokens = some block) :
      block.bodies = [] := by
    unfold Statement.interfaceHeading? at found
    dsimp only at found
    split at found
    · contradiction
    · split at found
      · cases found
        rfl
      · contradiction
  unfold openInterface?
  cases found : Statement.interfaceHeading? tokens with
  | none => exact .none
  | some block =>
    obtain ⟨name, token, isAbstract, bodies, moduleProcedures⟩ := block
    obtain rfl : bodies = [] := heading_empty found
    exact .some
      (alike.push (.interface token (.intro name token isAbstract moduleProcedures .nil)))

theorem rel_openType? :
    Option.Rel (Alike R start start') (state.openType? tokens) (state'.openType? tokens) := by
  cases tokens with
  | nil => exact .none
  | cons first rest =>
    unfold openType?
    cases Statement.typeHeading? (first :: rest) with
    | none => exact .none
    | some derivedType =>
      apply Option.Rel.some
      refine (alike.mapUnit fun node procedures interfaces => ?_).push (.derivedType first _)
      exact ProgramUnit.grant_holding
        { node with derivedTypes := node.derivedTypes ++ [derivedType] }
        procedures interfaces _ _ _

theorem rel_openConstruct? :
    Option.Rel (Alike R start start') (state.openConstruct? tokens)
      (state'.openConstruct? tokens) := by
  cases tokens with
  | nil => exact .none
  | cons first rest =>
    unfold openConstruct?
    cases Statement.construct? (first :: rest) with
    | none => exact .none
    | some kind =>
      apply Option.Rel.some
      dsimp only
      split
      · exact alike.push (.construct first kind)
      · exact (alike.recordExecutable _).push (.construct first kind)

theorem recordInside :
    Alike R start start' (state.recordInside tokens) (state'.recordInside tokens) := by
  have taken {after? after?' : Option ScanState} {plain plain' : ScanState}
      (found : Option.Rel (Alike R start start') after? after?')
      (otherwise : Alike R start start' plain plain') :
      Alike R start start' (after?.getD plain) (after?'.getD plain') := by
    cases found with
    | none => exact otherwise
    | some found => exact found
  have construct := alike.rel_openConstruct? tokens
  have derivedType := rel_orElse (alike.rel_openType? tokens) construct
  have interface := rel_orElse (alike.rel_openInterface? tokens) derivedType
  have procedure := rel_orElse (alike.rel_openProcedure? tokens) interface
  have programUnit := rel_orElse (alike.rel_openUnit? tokens) procedure
  simp only [ScanState.recordInside, head?_kind, alike.blocks_eq]
  split
  · exact alike
  · exact alike.recordEnumerators tokens
  · exact taken (alike.rel_openProcedure? tokens) (alike.recordMember tokens)
  · exact taken programUnit (alike.recordPlain tokens)

end Opening

/-! ## One statement and all statements -/

section Scanning

variable (likeness : Procedure.IsLikeness R) (alike : Alike R start start' state state')

include likeness alike

theorem step (statement : List Token) :
    Alike R start start' (state.step statement) (state'.step statement) := by
  unfold ScanState.step
  split
  · dsimp only
    rw [alike.depth_eq, head?_kind, head?_kind, alike.blocks_eq]
    split
    · exact (alike.recordDepth _ _).recordExecutable _
    · split
      · rename_i first rest _ _ _ closer _
        have closed := alike.close likeness closer first (rest.getLastD first)
        rw [closed.depth_eq]
        exact closed.recordDepth _ _
      · split
        · split
          · exact (alike.recordDepth _ _).recordContains _
          · exact alike.recordDepth _ _
        · exact (alike.recordDepth _ _).recordInside _
  · exact alike

theorem run (statements : List (List Token)) :
    Alike R start start' (state.run statements) (state'.run statements) := by
  induction statements generalizing state state' with
  | nil => exact alike
  | cons statement rest ih => exact ih (alike.step likeness statement)

end Scanning

/-- States are alike since they are what they are. -/
theorem restart (alike : Alike R start start' state state') :
    Alike R state state' state state' where
  __ := alike
  misplacedUses := ⟨[], by simp, by simp⟩
  errors := ⟨[], by simp, by simp⟩
  depths := ⟨[], by simp, by simp⟩

end Alike

/-! ## The same program with another body -/

/-- States in which the same blocks are open and have ended are alike. -/
theorem alike_of_eq {R : Procedure → Procedure → Prop} (likeness : Procedure.IsLikeness R)
    {state state' : ScanState} (frames_eq : state'.frames = state.frames)
    (units_eq : state'.units = state.units) (external_eq : state'.external = state.external)
    (topLevel_eq : state'.topLevel = state.topLevel) : Alike R state state' state state' where
  frames := by
    rw [frames_eq]
    exact List.forall₂_same.mpr fun frame _ => .refl likeness frame
  units := by
    rw [units_eq]
    exact List.forall₂_same.mpr fun node _ => .refl likeness node
  external := by
    rw [external_eq]
    exact List.forall₂_same.mpr fun node _ => likeness.same node
  topLevel := topLevel_eq
  misplacedUses := ⟨[], by simp, by simp⟩
  errors := ⟨[], by simp, by simp⟩
  depths := ⟨[], by simp, by simp⟩

theorem depths_addProcedure (state : ScanState) (procedure : Procedure) :
    (state.addProcedure procedure).depths = state.depths := by
  unfold addProcedure
  split <;> rfl

/-- Depths that are recorded later count only for lines that have none. -/
theorem getElem?_lineDepths_eq {start start' state state' : ScanState} {index : Nat}
    (grown : GrownAlike start.depths.reverse start'.depths.reverse state.depths.reverse
      state'.depths.reverse)
    (same : start'.depths.reverse.lookup (index + 1) = start.depths.reverse.lookup (index + 1))
    (lineCount : Nat) :
    (state'.lineDepths lineCount)[index]? = (state.lineDepths lineCount)[index]? := by
  obtain ⟨later, depths_eq, depths_eq'⟩ := grown
  simp only [lineDepths, depths_eq, depths_eq', List.getElem?_map, List.lookup_append]
  rcases Nat.lt_or_ge index lineCount with inside | beyond
  · simp [List.getElem?_range inside, same]
  · simp [beyond]

/-- Depths of other lines do not count for a line. -/
theorem Grown.lookup_eq {lines : List Nat} {before after : ScanState}
    (grown : Grown lines before after) {line : Nat} (other : line ∉ lines) :
    after.depths.reverse.lookup line = before.depths.reverse.lookup line := by
  obtain ⟨added, depths_eq, mem⟩ := grown.depths
  have none_eq : added.reverse.lookup line = none := by
    rw [List.lookup_eq_none_iff]
    rintro entry inside
    have entry_mem := mem entry (List.mem_reverse.mp inside)
    exact bne_iff_ne.mpr fun line_eq => other (line_eq ▸ entry_mem)
  simp [depths_eq, List.lookup_append, none_eq]

end ScanState

/-- Outlines of two sources that are the same but for the body of one procedure,
which is `first` in one and `second` in the other.  When it has ended, the states
are `ended` and `ended'`; its body stands on the given lines. -/
structure Outline.AlikeBut (first second : Procedure) (ended ended' : ScanState)
    (lines : List Nat) (outline outline' : Outline) : Prop where
  units : List.Forall₂ (ProgramUnit.Holds (Procedure.Alike first second)) outline.units
    outline'.units
  external : List.Forall₂ (Procedure.Alike first second) outline.external outline'.external
  topLevel : outline'.topLevel = outline.topLevel
  lineDepths : ∀ index, index + 1 ∉ lines →
    outline'.lineDepths[index]? = outline.lineDepths[index]?
  errors : GrownAlike ended.errors ended'.errors outline.errors outline'.errors
  misplacedUses : GrownAlike ended.misplacedUses ended'.misplacedUses outline.misplacedUses
    outline'.misplacedUses

namespace ScanState

/-- Alike states lead to outlines that are alike. -/
theorem Alike.alikeBut {first second : Procedure} {before before' : List (List Token)}
    {lines : List Nat} (token_eq : second.token = first.token)
    (alike : Alike (Procedure.Alike first second) (initial.run before) (initial.run before')
      (initial.run before) (initial.run before'))
    (lookup_eq : ∀ line, line ∉ lines → (initial.run before').depths.reverse.lookup line =
      (initial.run before).depths.reverse.lookup line)
    (rest : List (List Token)) (lineCount : Nat) :
    Outline.AlikeBut first second (initial.run before) (initial.run before') lines
      (Outline.ofStatements lineCount (before ++ rest))
      (Outline.ofStatements lineCount (before' ++ rest)) := by
  have likeness := Procedure.isLikeness_alike token_eq
  have split (statements : List (List Token)) :
      initial.run (statements ++ rest) = (initial.run statements).run rest :=
    List.foldl_append
  have ran := alike.run likeness rest
  have closed := ran.closeAll likeness (max lineCount 1) ((initial.run before).run rest).depth
  simp only [Outline.ofStatements, split, ran.depth_eq]
  exact {
    units := closed.units
    external := closed.external
    topLevel := closed.topLevel
    lineDepths := fun index other =>
      getElem?_lineDepths_eq closed.depths (lookup_eq _ other) lineCount
    errors := closed.errors
    misplacedUses := closed.misplacedUses }

/-- A broken body stays in its procedure.  After any statements that neither open nor
close a program unit or procedure and open no ENUM, the END of a procedure puts it
into the block around it, and all that has been added besides are errors, misplaced
USE statements and depths.  Two such bodies, with the same statements behind them at
the same places, give outlines that differ in the procedure alone, and apart from
its own body in no depth, error or misplaced USE statement. -/
theorem exists_recovered_and_alikeBut (before : List (List Token)) {opener label : Token}
    {node : Procedure}
    {inSpecification : Bool} {below : List Frame} {others : List Token}
    (top : (initial.run before).frames =
      .scope ⟨opener, .procedure node, inSpecification, []⟩ :: below)
    (ends : Statement.Ends node.kind (label :: others)) :
    ∃ recovered : List (List Token) → Procedure,
      (∀ body, (initial.run before).ConfinesAll body →
        (recovered body).heading = node.heading ∧
          ∃ outer, Grown (startLines body) { initial.run before with frames := below } outer ∧
            initial.run (before ++ body ++ [label :: others]) =
              (outer.recordDepth label below.length).addProcedure (recovered body)) ∧
      ∀ body body', (initial.run before).ConfinesAll body →
        (initial.run before).ConfinesAll body' → ∀ rest lineCount,
          Outline.AlikeBut (recovered body) (recovered body')
            (initial.run (before ++ body ++ [label :: others]))
            (initial.run (before ++ body' ++ [label :: others]))
            (startLines body ++ startLines body')
            (Outline.ofStatements lineCount (before ++ body ++ [label :: others] ++ rest))
            (Outline.ofStatements lineCount (before ++ body' ++ [label :: others] ++ rest)) := by
  have ended (body : List (List Token)) :
      initial.run (before ++ body ++ [label :: others]) =
        ((initial.run before).run body).step (label :: others) := by
    simp [run]
  have contained (body : List (List Token)) : ∃ procedure,
      (initial.run before).ConfinesAll body → procedure.heading = node.heading ∧
        ∃ outer, Grown (startLines body) { initial.run before with frames := below } outer ∧
          initial.run (before ++ body ++ [label :: others]) =
            (outer.recordDepth label below.length).addProcedure procedure := by
    by_cases confines : (initial.run before).ConfinesAll body
    · obtain ⟨procedure, outer, heading_eq, grown, step_eq⟩ :=
        exists_run_step_eq top confines ends
      exact ⟨procedure, fun _ => ⟨heading_eq, outer, grown, (ended body).trans step_eq⟩⟩
    · exact ⟨node, fun impossible => absurd impossible confines⟩
  choose recovered holds using contained
  refine ⟨recovered, holds, ?_⟩
  intro body body' confines confines' rest lineCount
  obtain ⟨heading_eq, outer, grown, ended_eq⟩ := holds body confines
  obtain ⟨heading_eq', outer', grown', ended_eq'⟩ := holds body' confines'
  have headings_eq : (recovered body').heading = (recovered body).heading :=
    heading_eq'.trans heading_eq.symm
  have token_eq : (recovered body').token = (recovered body).token :=
    (congrArg Procedure.token headings_eq :)
  have likeness := Procedure.isLikeness_alike token_eq
  have apart :
      Alike (Procedure.Alike (recovered body) (recovered body')) outer outer' outer outer' :=
    alike_of_eq likeness (grown'.frames.trans grown.frames.symm)
      (grown'.units.trans grown.units.symm) (grown'.external.trans grown.external.symm)
      (grown'.topLevel.trans grown.topLevel.symm)
  have alike := ((apart.recordDepth label below.length).addProcedure
    (.of_visibility_eq (congrArg Procedure.visibility headings_eq :))).restart
  rw [← ended_eq, ← ended_eq'] at alike
  apply alike.alikeBut token_eq
  intro line other
  have fresh := not_or.mp (mt List.mem_append.mpr other)
  rw [ended_eq, ended_eq', depths_addProcedure, depths_addProcedure]
  simp only [recordDepth, List.reverse_cons, List.lookup_append]
  rw [grown.lookup_eq fresh.1, grown'.lookup_eq fresh.2]

theorem exists_recovered_and_alikeBut_crossed :
    let statements := (Tokenized.ofLines ["module m", "contains", "subroutine p", "if (a) then",
      "interface", "end do", "end if", "end"]).statements
    let before := statements.take 3
    let body := (statements.drop 3).take 4
    let closing : Token := ⟨.keyword, "end", 8, 1, 8, 3⟩
    (initial.run before).ConfinesAll body ∧
      ∃ below procedure outer,
        Grown (startLines body) { initial.run before with frames := below } outer ∧
          initial.run (before ++ body ++ [[closing]]) =
            (outer.recordDepth closing below.length).addProcedure procedure := by
  intro statements before body closing
  have confines : (initial.run before).ConfinesAll body := by decide +kernel
  have ends (kind : ProcedureKind) : Statement.Ends kind [closing] :=
    ⟨⟨none, []⟩, closing, by decide +kernel, .inl rfl⟩
  have isScope : (initial.run before).frames.head?.any (·.isScope) = true := by decide +kernel
  have opened : (Frames.scope? (initial.run before).frames).any (fun scope =>
      scope.node.kind == .procedure .subroutine && scope.nested.isEmpty) = true := by
    decide +kernel
  cases top : (initial.run before).frames with
  | nil => simp [top] at isScope
  | cons frame below =>
    cases frame with
    | scope scope =>
      obtain ⟨opener, node, inSpecification, nested⟩ := scope
      simp only [top, Frames.scope?, Option.any_some, Bool.and_eq_true, beq_iff_eq,
        List.isEmpty_iff] at opened
      obtain ⟨kind_eq, rfl⟩ := opened
      cases node with
      | programUnit node => simp [ScopeNode.kind] at kind_eq
      | procedure node =>
        obtain ⟨recovered, contained, -⟩ :=
          exists_recovered_and_alikeBut before top (ends node.kind)
        obtain ⟨-, outer, grown, ended_eq⟩ := contained body confines
        exact ⟨confines, below, recovered body, outer, grown, ended_eq⟩
    | interface _ _ => simp [top, Frame.isScope] at isScope
    | derivedType _ _ => simp [top, Frame.isScope] at isScope
    | construct _ _ => simp [top, Frame.isScope] at isScope

end ScanState

end FortranStyle
