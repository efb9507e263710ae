import FortranStyle.Proofs.Rendering.Clauses
import FortranStyle.Proofs.Rendering.Recovery

/-!
# One rendered statement

Each statement of a rendered forest changes what a scan has recovered in one way:
it notes its depth, and it opens or closes a block.  A closing statement of a
scope attaches the scope where it belongs.
-/

namespace FortranStyle

open Rendering Statement

/-! ## Where a statement stands -/

namespace Rendering.Recovered

variable {recovered : Recovered}

/-- No interface, derived type or enumeration is the innermost block. -/
def IsOrdinary (recovered : Recovered) : Prop :=
  ∀ rest, recovered.layers ≠ .other :: rest

theorem StandsIn.isOrdinary {within : Option ConstructKind} (stands : recovered.StandsIn within) :
    recovered.IsOrdinary := by
  intro rest other
  cases within with
  | none =>
    obtain ⟨kind, name, startLine, inner, nested, outer, layers_eq⟩ := stands
    rw [layers_eq] at other
    cases other
  | some kind =>
    obtain ⟨outer, layers_eq⟩ := stands
    rw [layers_eq] at other
    cases other

theorem TakesProcedures.isOrdinary (takes : recovered.TakesProcedures) :
    recovered.IsOrdinary := by
  rcases takes with none | stands
  · intro rest other
    rw [none] at other
    cases other
  · exact stands.isOrdinary

end Rendering.Recovered

namespace ScanState

variable {state : ScanState} {line : Nat} {statement : List Token}

/-! ## Plain statements -/

/-- A plain statement divides the innermost block or is recorded in it. -/
theorem step_of_plain {first : Token} {rest : List Token} (plain : Plain (first :: rest)) :
    state.step (first :: rest) =
      if (state.frames.head?.map Frame.kind).any (isDivider · (first :: rest)) then
        let divided := state.recordDepth first (state.depth - 1)
        if first.isWord "contains" then divided.recordContains first else divided
      else
        (state.recordDepth first state.depth).recordInside (first :: rest) := by
  simp [step, plain.unlabelled, plain.noAssignment, plain.noCloser]

theorem step_of_noDivider {first : Token} {rest : List Token} (plain : Plain (first :: rest))
    (noDivider : ∀ within, isDivider within (first :: rest) = false) :
    state.step (first :: rest) =
      (state.recordDepth first state.depth).recordInside (first :: rest) := by
  rw [step_of_plain plain, if_neg]
  simp [noDivider]

/-- Openers are tried one after the other. -/
theorem recordInside_of_isOrdinary (ordinary : state.recovered.IsOrdinary) (tokens : List Token) :
    state.recordInside tokens =
      (state.openUnit? tokens
        <|> state.openProcedure? tokens
        <|> state.openInterface? tokens
        <|> state.openType? tokens
        <|> state.openConstruct? tokens).getD (state.recordPlain tokens) := by
  unfold recordInside
  cases frames_eq : state.frames with
  | nil => rfl
  | cons frame rest =>
    have layer_ne : frame.layer ≠ .other := by
      intro other
      apply ordinary (rest.map Frame.layer)
      simp [recovered, frames_eq, other]
    cases frame with
    | scope scope =>
      obtain ⟨opener, node, inSpecification, nested⟩ := scope
      cases node <;> rfl
    | interface _ _ => exact absurd rfl layer_ne
    | derivedType _ _ => exact absurd rfl layer_ne
    | construct opener kind =>
      cases kind with
      | enumeration => exact absurd rfl layer_ne
      | _ => rfl

/-- A quiet statement opens a construct or is recorded. -/
theorem recordInside_of_quiet (quiet : Quiet statement)
    (ordinary : state.recovered.IsOrdinary) :
    state.recordInside statement =
      (state.openConstruct? statement).getD (state.recordPlain statement) := by
  have noUnit : state.openUnit? statement = none := by
    cases statement with
    | nil => rfl
    | cons first rest => simp [openUnit?, quiet.noUnit]
  have noProcedure : state.openProcedure? statement = none := by
    cases statement with
    | nil => rfl
    | cons first rest => simp [openProcedure?, quiet.noProcedure]
  have noInterface : state.openInterface? statement = none := by
    simp [openInterface?, quiet.noInterface]
  have noType : state.openType? statement = none := by
    cases statement with
    | nil => rfl
    | cons first rest => simp [openType?, quiet.noType]
  rw [recordInside_of_isOrdinary ordinary, noUnit, noProcedure, noInterface, noType]
  rfl

/-- A quiet statement notes its depth and opens a construct or is recorded. -/
theorem step_of_quiet {first : Token} {rest : List Token} (quiet : Quiet (first :: rest))
    (noDivider : ∀ within, isDivider within (first :: rest) = false)
    (ordinary : state.recovered.IsOrdinary) :
    state.step (first :: rest) =
      ((state.recordDepth first state.depth).openConstruct? (first :: rest)).getD
        ((state.recordDepth first state.depth).recordPlain (first :: rest)) := by
  have stays : (state.recordDepth first state.depth).recovered.IsOrdinary := ordinary
  rw [step_of_noDivider quiet.toPlain noDivider, recordInside_of_quiet quiet stays]

/-! ## What each statement changes -/

/-- A call notes its depth. -/
theorem recovered_step_leaf {leaf : Leaf} (written : Written line (.leaf leaf) statement)
    (ordinary : state.recovered.IsOrdinary) :
    (state.step statement).recovered = state.recovered.note line state.recovered.depth := by
  obtain ⟨first, rest, rfl⟩ := List.exists_cons_of_ne_nil written.ne_nil
  have line_eq := written.onLine first List.mem_cons_self
  rw [depth_recovered, ← line_eq, ← recovered_recordDepth]
  cases leaf with
  | call name arguments =>
    obtain ⟨quiet, noDivider, noConstruct, _, _, rest_eq, reads⟩ := quiet_call written
    obtain ⟨rfl, rfl⟩ := List.cons.inj rest_eq
    rw [step_of_quiet quiet noDivider ordinary]
    have plain_eq (before : ScanState) :
        before.recordPlain (first :: rest) = before.recordExecutable (first :: rest) := by
      simp [recordPlain, isDeclaration, reads.isWord_eq, reads.isAmong_eq,
        Vocabulary.intrinsicTypes, Vocabulary.specificationWords]
    simp only [openConstruct?, noConstruct, Option.map_none, Option.getD_none, plain_eq]
    exact recovered_recordExecutable _ _
  | assignment target value =>
    obtain ⟨unlabelled_eq, target_eq⟩ := target_assignment written
    have step_eq : state.step (first :: rest) =
        (state.recordDepth first state.depth).recordExecutable (first :: rest) := by
      simp [step, unlabelled_eq, target_eq]
    rw [step_eq]
    exact recovered_recordExecutable _ _

/-- IMPLICIT NONE notes its depth. -/
theorem recovered_step_implicitNone (written : Written line .implicitNone statement)
    (ordinary : state.recovered.IsOrdinary) :
    (state.step statement).recovered = state.recovered.note line state.recovered.depth := by
  obtain ⟨quiet, noDivider, noConstruct, first, rest, rfl, reads⟩ := quiet_implicitNone written
  have line_eq := written.onLine first List.mem_cons_self
  rw [depth_recovered, ← line_eq, ← recovered_recordDepth,
    step_of_quiet quiet noDivider ordinary]
  have plain_eq (before : ScanState) :
      before.recordPlain (first :: rest) = before.recordImplicit (first :: rest) := by
    simp [recordPlain, reads.isWord_eq]
  simp only [openConstruct?, noConstruct, Option.map_none, Option.getD_none, plain_eq]
  exact recovered_recordImplicit _ _

/-- The first statement of a construct notes its depth and opens it. -/
theorem recovered_step_opener {kind : ConstructKind} {opener : Opener kind}
    (written : Written line (.opener opener) statement)
    (ordinary : state.recovered.IsOrdinary) :
    (state.step statement).recovered =
      (state.recovered.note line state.recovered.depth).push (.construct kind) := by
  obtain ⟨first, rest, rfl⟩ := List.exists_cons_of_ne_nil written.ne_nil
  have line_eq := written.onLine first List.mem_cons_self
  obtain ⟨quiet, noDivider, construct_eq⟩ := opener.quiet written
  have notEnumeration : kind ≠ .enumeration := by
    rintro rfl
    cases opener
  rw [depth_recovered, ← line_eq, ← recovered_recordDepth,
    step_of_quiet quiet noDivider ordinary]
  simp only [openConstruct?, construct_eq, Option.map_some, Option.getD_some,
    if_neg notEnumeration, recovered_push, recovered_recordExecutable, Frame.layer]

/-- A statement that divides a construct notes the depth of the construct. -/
theorem recovered_step_divider {kind : ConstructKind} {divider : Divider kind}
    (written : Written line (.divider divider) statement)
    (stands : state.recovered.StandsIn (some kind)) :
    (state.step statement).recovered = state.recovered.note line (state.recovered.depth - 1) := by
  obtain ⟨quiet, divides, first, rest, rfl, noContains⟩ := divider.quiet written
  have line_eq := written.onLine first List.mem_cons_self
  obtain ⟨layers, layers_eq⟩ := stands
  obtain ⟨frame, frames, frames_eq, layer_eq, -⟩ := exists_frame layers_eq
  obtain ⟨opener, rfl⟩ := Frame.exists_construct layer_eq
  have isDividing :
      (state.frames.head?.map Frame.kind).any (isDivider · (first :: rest)) = true := by
    simpa [frames_eq, Frame.kind] using divides
  rw [step_of_plain quiet.toPlain, if_pos isDividing, depth_recovered, ← line_eq,
    ← recovered_recordDepth]
  simp [noContains]

/-- CONTAINS notes the depth of its scope. -/
theorem recovered_step_contains (written : Written line .contains statement)
    (stands : state.recovered.StandsIn none) :
    (state.step statement).recovered = state.recovered.note line (state.recovered.depth - 1) := by
  obtain ⟨quiet, divides, first, rfl, isContains⟩ := quiet_contains written
  have line_eq := written.onLine first List.mem_cons_self
  obtain ⟨kind, name, startLine, inner, nested, layers, layers_eq⟩ := stands
  obtain ⟨frame, frames, frames_eq, layer_eq, -⟩ := exists_frame layers_eq
  obtain ⟨scope, rfl⟩ := Frame.exists_scope layer_eq
  have isDividing : (state.frames.head?.map Frame.kind).any (isDivider · [first]) = true := by
    rw [frames_eq]
    exact divides _ ((Frame.isScope_eq (.scope scope)).symm.trans rfl)
  rw [step_of_plain quiet.toPlain, if_pos isDividing, depth_recovered, ← line_eq,
    ← recovered_recordDepth]
  simp only [isContains, if_true]
  exact recovered_recordContains _ _

/-- The first statement of a procedure notes its depth and opens a scope. -/
theorem recovered_step_procedure {heading : ProcedureHeading}
    (written : Written line (.procedure heading) statement)
    (takes : state.recovered.TakesProcedures) :
    (state.step statement).recovered =
      state.recovered.enter line (.procedure heading.kind) heading.name.text := by
  obtain ⟨first, rest, rfl⟩ := List.exists_cons_of_ne_nil written.ne_nil
  obtain rfl := written.onLine first List.mem_cons_self
  obtain ⟨plain, noDivider, noUnit, header, header_eq, kind_eq, name_eq⟩ :=
    ProcedureHeading.plain written
  have stillTakes : (state.recordDepth first state.depth).recovered.TakesProcedures := takes
  rw [step_of_noDivider plain noDivider, recordInside_of_isOrdinary stillTakes.isOrdinary,
    Recovered.enter, depth_recovered, ← recovered_recordDepth]
  generalize state.recordDepth first state.depth = noted at stillTakes ⊢
  simp only [openUnit?, noUnit, openProcedure?, header_eq, Option.map_none, Option.map_some,
    Option.orElse_eq_orElse, Option.orElse_none, Option.orElse_some, Option.getD_some,
    recovered_push]
  rw [← kind_eq, ← name_eq]
  rcases stillTakes with none | ⟨kind, name, startLine, inner, nested, layers, layers_eq⟩
  · have noFrames : noted.frames = [] := List.map_eq_nil_iff.mp none
    simp only [noFrames, Frames.holder?, Option.isNone_none, if_true, Recovered.announce, none]
    simp [recovered]
    rfl
  · obtain ⟨frame, frames, frames_eq, layer_eq, -⟩ := exists_frame layers_eq
    obtain ⟨scope, rfl⟩ := Frame.exists_scope layer_eq
    simp only [frames_eq, Frames.holder?, Option.isNone_some, Bool.false_eq_true, if_false,
      Recovered.announce, layers_eq]
    rfl

/-- The first statement of a program unit notes its depth and opens a scope. -/
theorem recovered_step_programUnit {heading : UnitHeading}
    (written : Written line (.programUnit heading) statement)
    (outermost : state.recovered.layers = []) :
    (state.step statement).recovered =
      state.recovered.enter line (.unit heading.kind) heading.name.text := by
  obtain ⟨first, rest, rfl⟩ := List.exists_cons_of_ne_nil written.ne_nil
  obtain rfl := written.onLine first List.mem_cons_self
  obtain ⟨plain, noDivider, name, heading_eq, name_eq⟩ := UnitHeading.plain written
  have noFrames : state.frames = [] := List.map_eq_nil_iff.mp outermost
  have takes : (state.recordDepth first state.depth).recovered.TakesProcedures := .inl outermost
  rw [step_of_noDivider plain noDivider, recordInside_of_isOrdinary takes.isOrdinary,
    Recovered.enter, depth_recovered]
  simp only [openUnit?, heading_eq, Option.map_some, Option.orElse_eq_orElse,
    Option.orElse_some, Option.getD_some, recovered_push]
  simp only [recordDepth, noFrames, Frames.scope?, Recovered.announce, Recovered.note, outermost]
  simp [recovered, depth, noFrames, Recovered.push, ProgramUnit.begin, Frame.layer, name_eq,
    ScopeNode.kind, ScopeNode.name, ProgramUnit.name, ScopeNode.startLine, ScopeNode.inner,
    Procedure.shapes]

/-! ## Closing statements -/

/-- END of the innermost block closes it. -/
theorem step_of_closer {first : Token} {rest trailing : List Token} {kind : BlockKind}
    {frame : Frame} {frames : List Frame}
    (unlabelled_eq : unlabelled (first :: rest) = first :: rest)
    (noAssignment : assignmentTarget? (first :: rest) = none)
    (closer_eq : closer? (first :: rest) = some ⟨some kind, trailing⟩)
    (frames_eq : state.frames = frame :: frames) (kind_eq : frame.kind = kind)
    (named : endMismatch? frame trailing = none) :
    state.step (first :: rest) =
      (state.closeTop (rest.getLastD first).line).recordDepth first
        (state.closeTop (rest.getLastD first).line).depth := by
  have close_eq : state.close ⟨some kind, trailing⟩ first (rest.getLastD first) =
      state.closeTop (rest.getLastD first).line := by
    simp [close, Frames.reach?, closeAbove, frames_eq, kind_eq, named]
  simp only [step, unlabelled_eq, noAssignment, closer_eq, Option.isSome_none,
    Bool.false_eq_true, if_false, close_eq]

/-- END of a construct closes it at the depth of its first statement. -/
theorem recovered_step_endConstruct {kind : ConstructKind} {layers : List Layer}
    (written : Written line (.endConstruct kind) statement)
    (layers_eq : state.recovered.layers = .construct kind :: layers) :
    (state.step statement).recovered =
      ({ state.recovered with layers } : Recovered).note line layers.length := by
  obtain ⟨first, rest, trailing, rfl, unlabelled_eq, noAssignment, closer_eq, trailing_eq⟩ :=
    exists_closer [] written.faces
  obtain rfl := List.map_eq_nil_iff.mp trailing_eq
  obtain ⟨frame, frames, frames_eq, layer_eq, -⟩ := exists_frame layers_eq
  obtain ⟨opener, rfl⟩ := Frame.exists_construct layer_eq
  have closed := recovered_closeTop_construct layers_eq (rest.getLastD first).line
  rw [step_of_closer unlabelled_eq noAssignment closer_eq frames_eq rfl rfl,
    recovered_recordDepth, ← depth_recovered, closed, written.onLine first List.mem_cons_self]
  rfl

/-- The name behind END is the name of the scope. -/
theorem exists_end {kind : BlockKind} {name : Name} {layers : List Layer} {startLine : Nat}
    {inner nested : List Shape} (written : Written line (.endBlock kind name) statement)
    (layers_eq : state.recovered.layers =
      .scope kind name.text startLine inner nested :: layers) :
    ∃ first, first ∈ statement ∧ state.step statement =
      (state.closeTop line).recordDepth first (state.closeTop line).depth := by
  obtain ⟨first, rest, trailing, rfl, unlabelled_eq, noAssignment, closer_eq, trailing_eq⟩ :=
    exists_closer [(Word.name name).face] written.faces
  obtain ⟨token, more, rfl, text_eq, reads, -⟩ := exists_name trailing_eq
  obtain ⟨frame, frames, frames_eq, layer_eq, -⟩ := exists_frame layers_eq
  obtain ⟨scope, rfl⟩ := Frame.exists_scope layer_eq
  obtain ⟨kind_eq, name_eq, -⟩ := Layer.scope.inj layer_eq
  have named : endMismatch? (.scope scope) (token :: more) = none := by
    have frameName : (Frame.scope scope).name = name.text := name_eq
    simp [endMismatch?, reads.lower_eq, frameName]
  have last_line := written.onLine (rest.getLastD first) List.getLastD_mem_cons
  refine ⟨first, List.mem_cons_self, ?_⟩
  rw [step_of_closer unlabelled_eq noAssignment closer_eq frames_eq kind_eq named, last_line]

/-- END of a procedure attaches it. -/
theorem recovered_step_endProcedure {kind : ProcedureKind} {name : Name} {layers : List Layer}
    {startLine : Nat} {inner : List Shape}
    (written : Written line (.endBlock (.procedure kind) name) statement)
    (layers_eq : state.recovered.layers =
      .scope (.procedure kind) name.text startLine inner [] :: layers)
    (outer : ({ state.recovered with layers } : Recovered).TakesProcedures) :
    (state.step statement).recovered =
      state.recovered.leave line ⟨.procedure kind, name.text, startLine, line, inner⟩
        layers := by
  obtain ⟨first, member, step_eq⟩ := exists_end written layers_eq
  have closed := recovered_closeTop_procedure layers_eq outer line
  rw [step_eq, recovered_recordDepth, ← depth_recovered, closed, Recovered.depth_attach,
    written.onLine first member]
  rfl

/-- END of a program unit attaches it. -/
theorem recovered_step_endUnit {kind : UnitKind} {name : Name} {startLine : Nat}
    {inner : List Shape} (written : Written line (.endBlock (.unit kind) name) statement)
    (layers_eq : state.recovered.layers = [.scope (.unit kind) name.text startLine inner []]) :
    (state.step statement).recovered =
      state.recovered.leave line ⟨.unit kind, name.text, startLine, line, inner⟩ [] := by
  obtain ⟨first, member, step_eq⟩ := exists_end written layers_eq
  have closed := recovered_closeTop_unit layers_eq line
  rw [step_eq, recovered_recordDepth, ← depth_recovered, closed, Recovered.depth_attach,
    written.onLine first member]
  rfl

end ScanState

end FortranStyle
