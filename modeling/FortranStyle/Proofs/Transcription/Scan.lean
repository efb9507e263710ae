import FortranStyle.Proofs.Nesting.OpenBlock
import FortranStyle.Proofs.Reading.StatementEnd
import FortranStyle.Proofs.Transcription.Program

/-!
# Copies of scans

Reading the copy of a statement in the copy of a state gives the copy of the
state behind the statement.  So a copied source is scanned like the source itself:
the same blocks open and close, and the same is out of order, at the places to
which the copy has moved them.
-/

namespace FortranStyle.Transcription

variable (copy : Transcription)

/-! ## Open blocks -/

/-- Copy what statements are recorded in. -/
def scopeNode : ScopeNode → ScopeNode
  | .programUnit node => .programUnit (copy.programUnit node)
  | .procedure node => .procedure (copy.procedure node)

/-- Copy an open program unit or procedure. -/
def scope (scope : Scope) : Scope where
  opener := copy.token scope.opener
  node := copy.scopeNode scope.node
  inSpecification := scope.inSpecification
  nested := scope.nested.map copy.programUnit

/-- Copy an open block. -/
def frame : Frame → Frame
  | .scope inner => .scope (copy.scope inner)
  | .interface opener block => .interface (copy.token opener) (copy.interface block)
  | .derivedType opener name => .derivedType (copy.token opener) (copy.text name)
  | .construct opener kind => .construct (copy.token opener) kind

/-- Copy the name of a block.  Only some are shown as they are written. -/
def blockName : BlockKind → String → String
  | .unit _, name | .procedure _, name | .derivedType, name => copy.text name
  | .interface, name | .construct _, name => name

@[simp]
theorem kind_scopeNode (node : ScopeNode) : (copy.scopeNode node).kind = node.kind := by
  cases node with
  | programUnit node => rfl
  | procedure node => exact congrArg BlockKind.procedure (copy.kind_procedure node)

@[simp]
theorem name_scopeNode (node : ScopeNode) : (copy.scopeNode node).name = copy.text node.name := by
  cases node with
  | programUnit node => rfl
  | procedure node => exact copy.name_procedure node

@[simp]
theorem kind_frame (frame : Frame) : (copy.frame frame).kind = frame.kind := by
  cases frame with
  | scope inner => exact copy.kind_scopeNode inner.node
  | _ => rfl

@[simp]
theorem opener_frame (frame : Frame) : (copy.frame frame).opener = copy.token frame.opener := by
  cases frame <;> rfl

@[simp]
theorem isScope_frame (frame : Frame) : (copy.frame frame).isScope = frame.isScope := by
  cases frame <;> rfl

@[simp]
theorem name_frame (frame : Frame) :
    (copy.frame frame).name = copy.blockName frame.kind frame.name := by
  cases frame with
  | scope inner =>
    obtain ⟨opener, node, inSpecification, nested⟩ := inner
    cases node with
    | programUnit node => rfl
    | procedure node => exact copy.name_procedure node
  | _ => rfl

/-- The words by which frames are known show the same small letters. -/
theorem lower_name_frame {frame : Frame} (scope : frame.isScope = true) :
    Text.lower (copy.frame frame).name = Text.lower frame.name := by
  cases frame with
  | scope inner =>
      exact (congrArg Text.lower (copy.name_scopeNode inner.node)).trans (copy.lower_text _)
  | _ => contradiction

/-! ## Searches among open blocks -/

@[simp]
theorem scope?_frames (frames : List Frame) :
    Frames.scope? (frames.map copy.frame) = (Frames.scope? frames).map copy.scope := by
  induction frames with
  | nil => rfl
  | cons first rest ih =>
    cases first with
    | scope inner => rfl
    | _ => exact ih

@[simp]
theorem programUnit?_frames (frames : List Frame) :
    Frames.programUnit? (frames.map copy.frame) =
      (Frames.programUnit? frames).map copy.programUnit := by
  induction frames with
  | nil => rfl
  | cons first rest ih =>
    cases first with
    | scope inner =>
      obtain ⟨opener, node, inSpecification, nested⟩ := inner
      cases node with
      | programUnit node => rfl
      | procedure node => exact ih
    | _ => exact ih

@[simp]
theorem holder?_frames (frames : List Frame) :
    Frames.holder? (frames.map copy.frame) = (Frames.holder? frames).map copy.frame := by
  induction frames with
  | nil => rfl
  | cons first rest ih =>
    cases first with
    | scope inner => rfl
    | interface opener block => rfl
    | _ => exact ih

@[simp]
theorem reach?_frames (kind : Option BlockKind) (frames : List Frame) :
    Frames.reach? kind (frames.map copy.frame) = Frames.reach? kind frames := by
  induction frames with
  | nil => rfl
  | cons first rest ih =>
    cases kind <;> simp only [List.map_cons, Frames.reach?, kind_frame, isScope_frame, ih]

/-! ## Changes of open blocks -/

theorem mapScope_frames {change original : Scope → Scope}
    (commutes : ∀ inner, change (copy.scope inner) = copy.scope (original inner))
    (frames : List Frame) :
    Frames.mapScope change (frames.map copy.frame) =
      (Frames.mapScope original frames).map copy.frame := by
  induction frames with
  | nil => rfl
  | cons first rest ih =>
    cases first with
    | scope inner =>
      exact congrArg (Frame.scope · :: rest.map copy.frame) (commutes inner)
    | _ => exact congrArg (_ :: ·) ih

theorem mapNode_frames {change original : ScopeNode → ScopeNode}
    (commutes : ∀ node, change (copy.scopeNode node) = copy.scopeNode (original node))
    (frames : List Frame) :
    Frames.mapNode change (frames.map copy.frame) =
      (Frames.mapNode original frames).map copy.frame :=
  copy.mapScope_frames
    (fun inner => congrArg ({ copy.scope inner with node := · }) (commutes inner.node)) frames

theorem mapProgramUnit_frames {change original : ProgramUnit → ProgramUnit}
    (commutes : ∀ node, change (copy.programUnit node) = copy.programUnit (original node))
    (frames : List Frame) :
    Frames.mapProgramUnit change (frames.map copy.frame) =
      (Frames.mapProgramUnit original frames).map copy.frame := by
  induction frames with
  | nil => rfl
  | cons first rest ih =>
    cases first with
    | scope inner =>
      obtain ⟨opener, node, inSpecification, nested⟩ := inner
      cases node with
      | programUnit node =>
        exact congrArg (fun node => Frame.scope ⟨copy.token opener, .programUnit node,
          inSpecification, nested.map copy.programUnit⟩ :: rest.map copy.frame) (commutes node)
      | procedure node => exact congrArg (_ :: ·) ih
    | _ => exact congrArg (_ :: ·) ih

theorem mapSpecification_scopeNode {change original : Specification → Specification}
    (commutes : ∀ specification,
      change (copy.specification specification) = copy.specification (original specification))
    (node : ScopeNode) :
    (copy.scopeNode node).mapSpecification change =
      copy.scopeNode (node.mapSpecification original) := by
  cases node with
  | programUnit node =>
    simp [scopeNode, ScopeNode.mapSpecification, programUnit, commutes]
  | procedure node =>
    simp [scopeNode, ScopeNode.mapSpecification, procedure_eq, commutes]

theorem mapUnit_scopeNode {change original : ProgramUnit → ProgramUnit}
    (commutes : ∀ node, change (copy.programUnit node) = copy.programUnit (original node))
    (node : ScopeNode) :
    (copy.scopeNode node).mapUnit change = copy.scopeNode (node.mapUnit original) := by
  cases node with
  | programUnit node => exact congrArg ScopeNode.programUnit (commutes node)
  | procedure node => rfl

theorem mapProcedure_scopeNode {change original : Procedure → Procedure}
    (commutes : ∀ node, change (copy.procedure node) = copy.procedure (original node))
    (node : ScopeNode) :
    (copy.scopeNode node).mapProcedure change = copy.scopeNode (node.mapProcedure original) := by
  cases node with
  | programUnit node => rfl
  | procedure node => exact congrArg ScopeNode.procedure (commutes node)

theorem addInterface_scopeNode (block : Interface) (node : ScopeNode) :
    (copy.scopeNode node).addInterface (copy.interface block) =
      copy.scopeNode (node.addInterface block) := by
  cases node with
  | programUnit node => simp [scopeNode, ScopeNode.addInterface, programUnit]
  | procedure node => simp [scopeNode, ScopeNode.addInterface, procedure_eq]

theorem addProcedure_scopeNode (child : Procedure) (node : ScopeNode) :
    (copy.scopeNode node).addProcedure (copy.procedure child) =
      copy.scopeNode (node.addProcedure child) := by
  cases node with
  | programUnit node => simp [scopeNode, ScopeNode.addProcedure, programUnit]
  | procedure node =>
    simp only [scopeNode, ScopeNode.addProcedure]
    rw [copy.procedure_eq node, copy.procedure_eq { node with children := _ }]
    simp

@[simp]
theorem attach?_frames (child : Procedure) (frames : List Frame) :
    Frames.attach? (copy.procedure child) (frames.map copy.frame) =
      (Frames.attach? child frames).map (List.map copy.frame) := by
  have passed {first : Frame} {rest : List Frame}
      (ih : Frames.attach? (copy.procedure child) (rest.map copy.frame) =
        (Frames.attach? child rest).map (List.map copy.frame)) :
      (Frames.attach? (copy.procedure child) (rest.map copy.frame)).map (copy.frame first :: ·) =
        ((Frames.attach? child rest).map (first :: ·)).map (List.map copy.frame) := by
    rw [ih]
    cases Frames.attach? child rest <;> rfl
  induction frames with
  | nil => rfl
  | cons first rest ih =>
    cases first with
    | scope inner =>
      exact congrArg (fun node => some (Frame.scope { copy.scope inner with node } ::
        rest.map copy.frame)) (copy.addProcedure_scopeNode child inner.node)
    | interface opener block =>
      simp [Frames.attach?, frame, interface]
    | _ => exact passed ih

/-! ## States -/

/-- Copy what is wrong with the nesting of blocks. -/
def cause : StructuralCause → StructuralCause
  | .unmatchedEnd kind => .unmatchedEnd kind
  | .notClosedBefore kind openedOn line =>
      .notClosedBefore kind (copy.line openedOn) (copy.line line)
  | .neverClosed kind name openedOn =>
      .neverClosed kind (copy.blockName kind name) (copy.line openedOn)
  | .endNameMismatch kind endName name =>
      .endNameMismatch kind (copy.text endName) (copy.blockName kind name)
  | .nestedUnit kind name outer outerName =>
      .nestedUnit kind (copy.text name) outer (copy.text outerName)

/-- Copy an error in the nesting of blocks. -/
def structuralError (error : StructuralError) : StructuralError where
  cause := copy.cause error.cause
  line := copy.line error.line
  column := copy.column error.line error.column

/-- Copy the heading of what stands in no other block. -/
def heading (heading : Heading) : Heading :=
  { heading with token := copy.token heading.token }

/-- Copy what is known after some statements. -/
def state (state : ScanState) : ScanState where
  frames := state.frames.map copy.frame
  units := state.units.map copy.programUnit
  external := state.external.map copy.procedure
  topLevel := state.topLevel.map copy.heading
  misplacedUses := state.misplacedUses.map copy.use
  errors := state.errors.map copy.structuralError
  depths := state.depths.map (Prod.map copy.line id)

@[simp]
theorem frames_state (state : ScanState) :
    (copy.state state).frames = state.frames.map copy.frame :=
  rfl

@[simp]
theorem depth_state (state : ScanState) : (copy.state state).depth = state.depth :=
  List.length_map copy.frame

@[simp]
theorem initial_state : copy.state .initial = .initial :=
  rfl

@[simp]
theorem report_state (state : ScanState) (cause : StructuralCause) (token : Token) :
    (copy.state state).report (copy.cause cause) (copy.token token) =
      copy.state (state.report cause token) := by
  simp [ScanState.report, Transcription.state, structuralError]

@[simp]
theorem recordDepth_state (state : ScanState) (token : Token) (depth : Nat) :
    (copy.state state).recordDepth (copy.token token) depth =
      copy.state (state.recordDepth token depth) := by
  simp [ScanState.recordDepth, Transcription.state]

@[simp]
theorem push_state (state : ScanState) (frame : Frame) :
    (copy.state state).push (copy.frame frame) = copy.state (state.push frame) := by
  simp [ScanState.push, Transcription.state]

/-- Changes of the open blocks that commute with copying. -/
theorem mapFrames_state {change original : List Frame → List Frame}
    (commutes : ∀ frames, change (frames.map copy.frame) = (original frames).map copy.frame)
    (state : ScanState) :
    (copy.state state).mapFrames change = copy.state (state.mapFrames original) :=
  congrArg (fun frames => { copy.state state with frames }) (commutes state.frames)

theorem mapNode_state {change original : ScopeNode → ScopeNode}
    (commutes : ∀ node, change (copy.scopeNode node) = copy.scopeNode (original node))
    (state : ScanState) :
    (copy.state state).mapNode change = copy.state (state.mapNode original) :=
  copy.mapFrames_state (copy.mapNode_frames commutes) state

theorem mapProcedure_state {change original : Procedure → Procedure}
    (commutes : ∀ node, change (copy.procedure node) = copy.procedure (original node))
    (state : ScanState) :
    (copy.state state).mapProcedure change = copy.state (state.mapProcedure original) :=
  copy.mapNode_state (copy.mapProcedure_scopeNode commutes) state

@[simp]
theorem addUnits_state (state : ScanState) (units : List ProgramUnit) :
    (copy.state state).addUnits (units.map copy.programUnit) =
      copy.state (state.addUnits units) := by
  simp only [ScanState.addUnits, frames_state, scope?_frames, Option.isSome_map]
  split
  · refine copy.mapFrames_state (copy.mapScope_frames fun inner => ?_) state
    simp [Transcription.scope]
  · simp [Transcription.state]

@[simp]
theorem addProcedure_state (state : ScanState) (node : Procedure) :
    (copy.state state).addProcedure (copy.procedure node) =
      copy.state (state.addProcedure node) := by
  rw [ScanState.addProcedure, ScanState.addProcedure, frames_state, attach?_frames]
  cases Frames.attach? node state.frames <;> simp [Transcription.state]

@[simp]
theorem closeTop_state (state : ScanState) (endLine : Nat) :
    (copy.state state).closeTop (copy.line endLine) = copy.state (state.closeTop endLine) := by
  obtain ⟨frames, units, external, topLevel, misplacedUses, errors, depths⟩ := state
  rcases frames with _ | ⟨first, rest⟩
  · rfl
  · cases first with
    | scope inner =>
      obtain ⟨opener, node, inSpecification, nested⟩ := inner
      cases node with
      | programUnit node =>
        have added := copy.addUnits_state
          ⟨rest, units, external, topLevel, misplacedUses, errors, depths⟩
          (node.finish endLine :: nested)
        rw [List.map_cons, ← finish_programUnit] at added
        exact added
      | procedure node =>
        have added := copy.addProcedure_state
          ⟨rest, units, external, topLevel, misplacedUses, errors, depths⟩ (node.finish endLine)
        rw [← finish_procedure] at added
        exact (congrArg (ScanState.addUnits · (nested.map copy.programUnit)) added).trans
          (copy.addUnits_state _ nested)
    | interface opener block =>
      exact congrArg (fun frames => ScanState.mk frames _ _ _ _ _ _)
        (copy.mapNode_frames (copy.addInterface_scopeNode block) rest)
    | _ => rfl

/-! ## Recording statements -/

@[simp]
theorem recordDeclaration_state (state : ScanState) (tokens : List Token) :
    (copy.state state).recordDeclaration (tokens.map copy.token) =
      copy.state (state.recordDeclaration tokens) := by
  have declared (constants : List String) (declarations : List Declaration) (node : ScopeNode) :
      (declarations.map copy.declaration).foldl (ScopeNode.declare constants)
          (copy.scopeNode node) =
        copy.scopeNode (declarations.foldl (ScopeNode.declare constants) node) := by
    induction declarations generalizing node with
    | nil => rfl
    | cons declaration rest ih =>
      have first_eq : (copy.scopeNode node).declare constants (copy.declaration declaration) =
          copy.scopeNode (node.declare constants declaration) := by
        cases node with
        | programUnit node => exact congrArg _ (copy.declare_programUnit node declaration)
        | procedure node => exact congrArg _ (copy.declare_procedure node constants declaration)
      rw [List.map_cons, List.foldl_cons, first_eq, ih, List.foldl_cons]
  simp only [ScanState.recordDeclaration, frames_state, programUnit?_frames,
    typeDeclaration_tokens, declarations_typeDeclaration]
  cases Frames.programUnit? state.frames with
  | none => exact copy.mapNode_state (declared [] _) state
  | some node =>
    simp only [Option.map_some]
    rw [show (copy.programUnit node).specification.parameters = node.specification.parameters from
      copy.parameters_specification node.specification]
    exact copy.mapNode_state (declared _ _) state

@[simp]
theorem use_ofStatement?_tokens (tokens : List Token) :
    Use.ofStatement? (tokens.map copy.token) = (Use.ofStatement? tokens).map copy.use := by
  cases tokens with
  | nil => rfl
  | cons token rest =>
    simp (disch := decide) only [List.map_cons, Use.ofStatement?, List.head?_map, Option.any_map,
      List.getElem?_map, isOp_token, isWord_token, ← List.map_drop,
      ← apply_ite (List.map copy.token)]
    generalize (if rest.head?.any (·.isOp ",") then rest.drop 2 else rest) = rest
    generalize (if rest.head?.any (·.isOp "::") then rest.drop 1 else rest) = rest
    rcases rest with _ | ⟨name, rest⟩
    · rfl
    · have locals (items : List Token) :
          ((Bracket.items (items.map copy.token)).filter (!·.isEmpty)).map Statement.localName =
            ((Bracket.items items).filter (!·.isEmpty)).map Statement.localName := by
        simp [List.filter_map, Function.comp_def]
      by_cases named : name.isName = true
      · rcases rest with _ | ⟨comma, _ | ⟨word, _ | ⟨colon, items⟩⟩⟩
        · simp [named, use]
        · simp [named, use]
        · simp [named, use]
        · simp (disch := decide) only [List.map_cons, isName_token, isOp_token, isWord_token,
            named, if_true, locals]
          rfl
      · simp [named]

@[simp]
theorem any_inSpecification_frames (frames : List Frame) :
    (Frames.scope? (frames.map copy.frame)).any (·.inSpecification) =
      (Frames.scope? frames).any (·.inSpecification) := by
  rw [scope?_frames, Option.any_map]
  rfl

@[simp]
theorem recordUse_state (state : ScanState) (tokens : List Token) :
    (copy.state state).recordUse (tokens.map copy.token) =
      copy.state (state.recordUse tokens) := by
  rw [ScanState.recordUse, ScanState.recordUse, use_ofStatement?_tokens]
  cases Use.ofStatement? tokens with
  | none => rfl
  | some found =>
    simp only [Option.map_some, frames_state, any_inSpecification_frames]
    split
    · refine copy.mapNode_state (copy.mapSpecification_scopeNode fun specification => ?_) state
      simp [Transcription.specification]
    · simp [Transcription.state]

@[simp]
theorem recordImplicit_state (state : ScanState) (tokens : List Token) :
    (copy.state state).recordImplicit (tokens.map copy.token) =
      copy.state (state.recordImplicit tokens) := by
  simp only [ScanState.recordImplicit, frames_state, any_inSpecification_frames,
    List.getElem?_map, Option.any_map, isWord_token]
  split
  · refine copy.mapNode_state (copy.mapSpecification_scopeNode fun specification => ?_) state
    rfl
  · rfl

@[simp]
theorem recordSave_state (state : ScanState) (token : Token) :
    (copy.state state).recordSave (copy.token token) = copy.state (state.recordSave token) := by
  refine copy.mapNode_state (copy.mapSpecification_scopeNode fun specification => ?_) state
  simp [Transcription.specification]

theorem recordAccess_programUnit (node : ProgramUnit) (visibility : Visibility) (word : Token)
    (rest : List Token) :
    (copy.programUnit node).recordAccess visibility (copy.token word) (rest.map copy.token) =
      copy.programUnit (node.recordAccess visibility word rest) := by
  simp only [ProgramUnit.recordAccess, List.isEmpty_map, items_tokens]
  split
  · rfl
  · induction Bracket.items rest generalizing node with
    | nil => rfl
    | cons item items ih =>
      rw [List.map_cons, List.foldl_cons, List.foldl_cons, ← ih]
      congr 1
      cases item with
      | nil => rfl
      | cons token more =>
        exact copy.grant_programUnit node (some visibility)
          (congrArg Text.lower (copy.localName_tokens (token :: more))) token

@[simp]
theorem recordAccess_state (state : ScanState) (visibility : Visibility) (word : Token)
    (rest : List Token) :
    (copy.state state).recordAccess visibility (copy.token word) (rest.map copy.token) =
      copy.state (state.recordAccess visibility word rest) := by
  have listed : (if (rest.map copy.token).head?.any (·.isOp "::") then
        (rest.map copy.token).drop 1 else rest.map copy.token) =
      (if rest.head?.any (·.isOp "::") then rest.drop 1 else rest).map copy.token := by
    simp (disch := decide) only [List.head?_map, Option.any_map, isOp_token, ← List.map_drop]
    split <;> rfl
  rw [ScanState.recordAccess, listed]
  refine copy.mapNode_state (copy.mapUnit_scopeNode fun node => ?_) state
  rw [isModule_programUnit, recordAccess_programUnit]
  split <;> rfl

@[simp]
theorem recordIntent_state (state : ScanState) (tokens : List Token) :
    (copy.state state).recordIntent (tokens.map copy.token) =
      copy.state (state.recordIntent tokens) := by
  simp (disch := decide) only [ScanState.recordIntent, ← List.map_drop, List.head?_map,
    Option.any_map, isOp_token, inside_tokens, intentOf_tokens, partner_tokens, listedNames_tokens]
  split
  · refine copy.mapProcedure_state (fun node => ?_) state
    rw [arguments_procedure, copy.foldl_arguments _ copy.token
      (fun found name => Argument.setIntent _ name.lower found)
      (fun found name => Argument.setIntent _ name.lower found)
      (fun arguments name => by rw [lower_token, setIntent_arguments])]
    simp [procedure_eq]
  · rfl

@[simp]
theorem recordExternal_state (state : ScanState) (tokens : List Token) :
    (copy.state state).recordExternal (tokens.map copy.token) =
      copy.state (state.recordExternal tokens) := by
  refine copy.mapProcedure_state (fun node => ?_) state
  rw [listedNames_tokens, arguments_procedure, copy.foldl_arguments _ copy.token
    (fun found name => Argument.markProcedure name.lower found)
    (fun found name => Argument.markProcedure name.lower found)
    (fun arguments name => by rw [lower_token, markProcedure_arguments])]
  simp [procedure_eq]

@[simp]
theorem recordMember_state (state : ScanState) (tokens : List Token) :
    (copy.state state).recordMember (tokens.map copy.token) =
      copy.state (state.recordMember tokens) := by
  have names (first : Token) (rest : List Token) :
      (Statement.listedNames (copy.token first :: rest.map copy.token)).map (·.lower) =
        (Statement.listedNames (first :: rest)).map (·.lower) := by
    rw [← List.map_cons, listedNames_tokens, List.map_map]
    simp only [Function.comp_def, lower_token]
  obtain ⟨frames, units, external, topLevel, misplacedUses, errors, depths⟩ := state
  rcases frames with _ | ⟨_ | ⟨opener, block⟩ | _ | _, frames⟩
  case cons.interface =>
    unfold ScanState.recordMember
    rcases tokens with _ | ⟨first, _ | ⟨second, rest⟩⟩
    · rfl
    · have single := names first []
      rw [List.map_nil] at single
      by_cases procedure : first.isWord "procedure" = true <;>
        simp [Transcription.state, frame, interface, procedure, single]
    · have all := names first (second :: rest)
      rw [List.map_cons] at all
      by_cases module : first.isWord "module" = true
      · by_cases procedure : second.isWord "procedure" = true <;>
          simp [Transcription.state, frame, interface, module, procedure, names]
      · by_cases procedure : first.isWord "procedure" = true <;>
          simp [Transcription.state, frame, interface, module, procedure, all]
  all_goals
    rw [ScanState.recordMember_eq_self (by simp [Transcription.state, frame]),
      ScanState.recordMember_eq_self (by simp)]

@[simp]
theorem recordEnumerators_state (state : ScanState) (tokens : List Token) :
    (copy.state state).recordEnumerators (tokens.map copy.token) =
      copy.state (state.recordEnumerators tokens) := by
  simp only [ScanState.recordEnumerators, List.head?_map, Option.any_map, isWord_token,
    listedNames_tokens, List.map_map, Function.comp_def, lower_token]
  split
  · refine copy.mapFrames_state (copy.mapProgramUnit_frames fun node => ?_) state
    rfl
  · rfl

@[simp]
theorem recordExecutable_state (state : ScanState) (tokens : List Token) :
    (copy.state state).recordExecutable (tokens.map copy.token) =
      copy.state (state.recordExecutable tokens) := by
  have ended : ((copy.state state).mapFrames (Frames.mapScope fun scope =>
        { scope with inSpecification := false })) =
      copy.state (state.mapFrames (Frames.mapScope fun scope =>
        { scope with inSpecification := false })) := by
    refine copy.mapFrames_state (copy.mapScope_frames fun inner => ?_) state
    rfl
  rw [ScanState.recordExecutable, ScanState.recordExecutable, ended, action?_tokens]
  cases Statement.action? tokens with
  | none => rfl
  | some action =>
    refine copy.mapProcedure_state (fun node => ?_) _
    simp [procedure_eq]

/-! ## Opening statements -/

@[simp]
theorem unitHeading?_tokens (tokens : List Token) :
    Statement.unitHeading? (tokens.map copy.token) =
      (Statement.unitHeading? tokens).map (Prod.map id copy.token) := by
  cases tokens with
  | nil => rfl
  | cons first rest =>
    have named :
        (rest.map copy.token).headD (copy.token first) = copy.token (rest.headD first) := by
      cases rest <;> rfl
    simp only [List.map_cons, Statement.unitHeading?, isWord_token, named]
    split
    · rfl
    · split
      · rcases rest with _ | ⟨name, _ | ⟨other, rest⟩⟩
        · rfl
        · simp only [List.map_cons, List.map_nil, isName_token, isAmong_token]
          split <;> rfl
        · rfl
      · simp only [List.length_map, startsBracket_tokens, beyond_tokens, List.head?_map,
          Option.map_map]
        split
        · rw [Option.map_map]
          rfl
        · rfl

@[simp]
theorem typeHeading?_tokens (tokens : List Token) :
    Statement.typeHeading? (tokens.map copy.token) =
      (Statement.typeHeading? tokens).map copy.derivedType := by
  rcases tokens with _ | ⟨first, _ | ⟨second, rest⟩⟩
  · rfl
  · rfl
  · have words (taken : List Token) :
        ((taken.map copy.token).filter (·.isName)).map (·.lower) =
          (taken.filter (·.isName)).map (·.lower) := by
      simp [List.filter_map, Function.comp_def]
    have found :=
      copy.find?_tokens (show "::" ∈ Token.delimiters by decide) (first :: second :: rest)
    simp only [List.map_cons] at found
    simp (disch := decide) only [List.map_cons, Statement.typeHeading?, isWord_token, isOp_token,
      found]
    split
    · cases Bracket.find? "::" (first :: second :: rest) with
      | none => by_cases named : second.isName = true <;> simp [named, derivedType]
      | some colons =>
        simp only [← List.map_cons, List.getElem?_map, ← List.map_take, ← List.map_drop, words]
        cases (first :: second :: rest)[colons + 1]? with
        | none => rfl
        | some token => by_cases named : token.isName = true <;> simp [named, derivedType]
    · rfl

@[simp]
theorem interfaceHeading?_tokens (tokens : List Token) :
    Statement.interfaceHeading? (tokens.map copy.token) =
      (Statement.interfaceHeading? tokens).map copy.interface := by
  simp only [Statement.interfaceHeading?, List.head?_map, Option.any_map, isWord_token,
    ← List.map_drop, ← apply_ite (List.map copy.token)]
  generalize (if tokens.head?.any (·.isWord "abstract") then tokens.drop 1 else tokens) = behind
  cases behind with
  | nil => rfl
  | cons token rest =>
    simp only [List.map_cons, isWord_token, spelling_tokens]
    split <;> rfl

theorem begin_programUnit (kind : UnitKind) (token : Token) (startLine : Nat) :
    ProgramUnit.begin kind (copy.token token) (copy.line startLine) =
      copy.programUnit (.begin kind token startLine) := by
  simp [ProgramUnit.begin, programUnit, Transcription.specification, Specification.empty,
    copy.line_zero]

theorem begin_procedure (header : Statement.Header) (startLine : Nat) (holder : Option Frame) :
    Procedure.begin (copy.header header) (copy.line startLine) (holder.map copy.frame) =
      copy.procedure (.begin header startLine holder) := by
  have arguments_eq : (header.arguments.map copy.token).map (Argument.mk · none false) =
      (header.arguments.map (Argument.mk · none false)).map copy.argument := by
    simp [argument, Function.comp_def]
  rw [procedure_eq]
  simp only [Procedure.begin, Transcription.header, arguments_eq, copy.line_zero]
  rcases holder with _ | ⟨⟨opener, node, inSpecification, nested⟩ | _ | _ | _⟩
  case some.scope =>
    cases node with
    | programUnit node =>
      simp only [Option.map_some, frame, scope, scopeNode, isModule_programUnit, name_programUnit]
      by_cases isModule : node.isModule = true <;>
        simp [isModule, Transcription.specification, Specification.empty]
    | procedure node => rfl
  all_goals rfl

/-- What stands in no other block is announced in a copy too. -/
theorem announce_state (state : ScanState) (kind : BlockKind) (token : Token) :
    { copy.state state with
      topLevel := (copy.state state).topLevel ++ [Heading.mk kind (copy.token token)] } =
      copy.state { state with topLevel := state.topLevel ++ [Heading.mk kind token] } := by
  simp [Transcription.state, heading]

@[simp]
theorem openUnit?_state (state : ScanState) (tokens : List Token) :
    (copy.state state).openUnit? (tokens.map copy.token) =
      (state.openUnit? tokens).map copy.state := by
  cases tokens with
  | nil => rfl
  | cons first rest =>
    simp only [List.map_cons, ScanState.openUnit?]
    rw [← List.map_cons, unitHeading?_tokens]
    cases Statement.unitHeading? (first :: rest) with
    | none => rfl
    | some opened =>
      obtain ⟨kind, name⟩ := opened
      have pushed (announced : ScanState) :
          (copy.state announced).push (.scope ⟨copy.token first, .programUnit
              (.begin kind (copy.token name) (copy.line first.line)), true, []⟩) =
            copy.state (announced.push
              (.scope ⟨first, .programUnit (.begin kind name first.line), true, []⟩)) := by
        rw [begin_programUnit, ← push_state]
        rfl
      simp only [Option.map_some, Prod.map_apply, id_eq, frames_state, scope?_frames, line_token]
      cases Frames.scope? state.frames with
      | none =>
        exact congrArg some ((congrArg (ScanState.push · _)
          (copy.announce_state state (.unit kind) name)).trans (pushed _))
      | some outer =>
        have announced : (copy.state state).report (.nestedUnit kind (copy.text name.text)
              (copy.scope outer).node.kind (copy.scope outer).node.name) (copy.token first) =
            copy.state
              (state.report
                (.nestedUnit kind name.text outer.node.kind outer.node.name) first) := by
          rw [← report_state, scope, kind_scopeNode, name_scopeNode, cause]
        exact congrArg some ((congrArg (ScanState.push · _) announced).trans (pushed _))

@[simp]
theorem openProcedure?_state (state : ScanState) (tokens : List Token) :
    (copy.state state).openProcedure? (tokens.map copy.token) =
      (state.openProcedure? tokens).map copy.state := by
  cases tokens with
  | nil => rfl
  | cons first rest =>
    simp only [List.map_cons, ScanState.openProcedure?]
    rw [← List.map_cons, header?_tokens]
    cases Statement.header? (first :: rest) with
    | none => rfl
    | some header =>
      have pushed (announced : ScanState) :
          (copy.state announced).push (.scope ⟨copy.token first, .procedure (.begin
              (copy.header header) (copy.line first.line)
              (Frames.holder? (copy.state state).frames)),
              true, []⟩) =
            copy.state (announced.push (.scope ⟨first, .procedure
              (.begin header first.line (Frames.holder? state.frames)), true, []⟩)) := by
        rw [frames_state, holder?_frames, begin_procedure, ← push_state]
        rfl
      have unheld : (Frames.holder? (copy.state state).frames).isNone =
          (Frames.holder? state.frames).isNone := by
        rw [frames_state, holder?_frames, Option.isNone_map]
      simp only [Option.map_some, unheld, line_token]
      split
      · exact congrArg some ((congrArg (ScanState.push · _)
          (copy.announce_state state (.procedure header.kind) header.name)).trans (pushed _))
      · exact congrArg some (pushed state)

@[simp]
theorem openInterface?_state (state : ScanState) (tokens : List Token) :
    (copy.state state).openInterface? (tokens.map copy.token) =
      (state.openInterface? tokens).map copy.state := by
  rw [ScanState.openInterface?, ScanState.openInterface?, interfaceHeading?_tokens]
  cases Statement.interfaceHeading? tokens with
  | none => rfl
  | some block => exact congrArg some (copy.push_state state (.interface block.token block))

@[simp]
theorem openType?_state (state : ScanState) (tokens : List Token) :
    (copy.state state).openType? (tokens.map copy.token) =
      (state.openType? tokens).map copy.state := by
  cases tokens with
  | nil => rfl
  | cons first rest =>
    simp only [List.map_cons, ScanState.openType?]
    rw [← List.map_cons, typeHeading?_tokens]
    cases Statement.typeHeading? (first :: rest) with
    | none => rfl
    | some found =>
      refine congrArg some (Eq.trans ?_ (copy.push_state _ (.derivedType first found.name)))
      refine congrArg (ScanState.push · _)
        (copy.mapNode_state (copy.mapUnit_scopeNode fun node => ?_) state)
      have added : { copy.programUnit node with
            derivedTypes := (copy.programUnit node).derivedTypes ++ [copy.derivedType found] } =
          copy.programUnit { node with derivedTypes := node.derivedTypes ++ [found] } := by
        simp [programUnit]
      exact (congrArg (ProgramUnit.grant · found.visibility (copy.text found.name)
        (copy.token found.token)) added).trans
          (copy.grant_programUnit _ found.visibility (copy.lower_text found.name) found.token)

@[simp]
theorem openConstruct?_state (state : ScanState) (tokens : List Token) :
    (copy.state state).openConstruct? (tokens.map copy.token) =
      (state.openConstruct? tokens).map copy.state := by
  cases tokens with
  | nil => rfl
  | cons first rest =>
    simp only [List.map_cons, ScanState.openConstruct?]
    rw [← List.map_cons, construct?_tokens, recordExecutable_state]
    cases Statement.construct? (first :: rest) with
    | none => rfl
    | some kind =>
      simp only [Option.map_some]
      rw [← apply_ite copy.state]
      exact congrArg some (copy.push_state _ (.construct first kind))

/-! ## Closing statements -/

@[simp]
theorem closeAbove_state (state : ScanState) (line count : Nat) :
    (copy.state state).closeAbove (copy.line line) count =
      copy.state (state.closeAbove line count) := by
  induction count generalizing state with
  | zero => rfl
  | succ count ih =>
    obtain ⟨frames, units, external, topLevel, misplacedUses, errors, depths⟩ := state
    cases frames with
    | nil => rfl
    | cons first rest =>
      simp only [ScanState.closeAbove, frames_state, List.map_cons, kind_frame, opener_frame,
        line_token]
      rw [← ih, ← closeTop_state, ← report_state]
      rfl

@[simp]
theorem closeAll_state (state : ScanState) (lastLine count : Nat) :
    (copy.state state).closeAll (copy.line lastLine) count =
      copy.state (state.closeAll lastLine count) := by
  induction count generalizing state with
  | zero => rfl
  | succ count ih =>
    obtain ⟨frames, units, external, topLevel, misplacedUses, errors, depths⟩ := state
    cases frames with
    | nil => rfl
    | cons first rest =>
      simp only [ScanState.closeAll, frames_state, List.map_cons, kind_frame, opener_frame,
        name_frame, line_token]
      rw [← ih, ← closeTop_state, ← report_state]
      rfl

@[simp]
theorem endMismatch?_frame (frame : Frame) (trailing : List Token) :
    ScanState.endMismatch? (copy.frame frame) (trailing.map copy.token) =
      (ScanState.endMismatch? frame trailing).map copy.token := by
  cases trailing with
  | nil => rfl
  | cons token rest =>
    simp only [List.map_cons, ScanState.endMismatch?, isScope_frame, isName_token, lower_token]
    by_cases scope : frame.isScope = true
    · rw [copy.lower_name_frame scope]
      split <;> rfl
    · simp [scope]

@[simp]
theorem close_state (state : ScanState) (closer : Statement.Closer) (first last : Token) :
    (copy.state state).close (copy.closer closer) (copy.token first) (copy.token last) =
      copy.state (state.close closer first last) := by
  obtain ⟨kind, trailing⟩ := closer
  simp only [ScanState.close, Transcription.closer, frames_state, reach?_frames]
  cases Frames.reach? kind state.frames with
  | none => exact copy.report_state state (.unmatchedEnd kind) first
  | some count =>
    simp only [closeAbove_state, line_token, frames_state]
    rw [← closeTop_state]
    congr 1
    cases (state.closeAbove first.line count).frames with
    | nil => rfl
    | cons frame rest =>
      simp only [List.map_cons, endMismatch?_frame]
      cases ScanState.endMismatch? frame trailing with
      | none => rfl
      | some token =>
        simp only [Option.map_some, kind_frame, name_frame, text_token]
        exact copy.report_state _ (.endNameMismatch frame.kind token.text frame.name) token

/-! ## One statement -/

@[simp]
theorem recordContains_state (state : ScanState) (token : Token) :
    (copy.state state).recordContains (copy.token token) =
      copy.state (state.recordContains token) := by
  obtain ⟨frames, units, external, topLevel, misplacedUses, errors, depths⟩ := state
  rcases frames with _ | ⟨⟨opener, node, inSpecification, nested⟩ | _ | _ | _, frames⟩
  case cons.scope => cases node <;> rfl
  all_goals rfl

@[simp]
theorem recordPlain_state (state : ScanState) (tokens : List Token) :
    (copy.state state).recordPlain (tokens.map copy.token) =
      copy.state (state.recordPlain tokens) := by
  cases tokens with
  | nil => rfl
  | cons first rest =>
    simp only [List.map_cons, ScanState.recordPlain, isWord_token, isAmong_token]
    simp only [← List.map_cons, recordUse_state, recordImplicit_state, recordDeclaration_state,
      recordAccess_state, recordIntent_state, recordSave_state, recordExternal_state,
      recordExecutable_state, isDeclaration_tokens, ← apply_ite copy.state]

@[simp]
theorem recordInside_state (state : ScanState) (tokens : List Token) :
    (copy.state state).recordInside (tokens.map copy.token) =
      copy.state (state.recordInside tokens) := by
  have innermost : (copy.state state).frames.head?.map Frame.kind =
      state.frames.head?.map Frame.kind := by
    simp [Function.comp_def]
  have orElse (first second : Option ScanState) :
      (first.map copy.state <|> second.map copy.state) = (first <|> second).map copy.state := by
    cases first <;> rfl
  have taken (found : Option ScanState) (other : ScanState) :
      (found.map copy.state).getD (copy.state other) = copy.state (found.getD other) := by
    cases found <;> rfl
  simp only [ScanState.recordInside, innermost, openUnit?_state, openProcedure?_state,
    openInterface?_state, openType?_state, openConstruct?_state, recordMember_state,
    recordPlain_state, recordEnumerators_state, orElse, taken]
  split <;> rfl

/-- Reading a copied statement in a copied state gives a copied state. -/
@[simp]
theorem step_state (state : ScanState) (statement : List Token) :
    (copy.state state).step (statement.map copy.token) = copy.state (state.step statement) := by
  cases statement with
  | nil => rfl
  | cons label behind =>
    have innermost : (copy.state state).frames.head?.map Frame.kind =
        state.frames.head?.map Frame.kind := by
      simp [Function.comp_def]
    have lastToken (first : Token) (rest : List Token) :
        (rest.map copy.token).getLastD (copy.token first) = copy.token (rest.getLastD first) := by
      simp [List.getLastD_eq_getLast?, Option.getD_map]
    unfold ScanState.step
    rw [unlabelled_tokens]
    cases Statement.unlabelled (label :: behind) with
    | nil => rfl
    | cons first rest =>
      simp only [List.map_cons, innermost, lastToken]
      simp only [← List.map_cons, assignmentTarget?_tokens, closer?_tokens, isDivider_tokens,
        Option.isSome_map, depth_state, isWord_token]
      split
      · rw [recordDepth_state, recordExecutable_state]
      · cases Statement.closer? (first :: rest) with
        | some closer => simp only [Option.map_some, close_state, depth_state, recordDepth_state]
        | none =>
          simp only [Option.map_none, recordDepth_state, recordContains_state, recordInside_state]
          split
          · split <;> rfl
          · rfl

/-- Copied statements lead from the copy of a state to the copy of the state behind them. -/
@[simp]
theorem run_state (state : ScanState) (statements : List (List Token)) :
    (copy.state state).run (statements.map (List.map copy.token)) =
      copy.state (state.run statements) := by
  induction statements generalizing state with
  | nil => rfl
  | cons first rest ih =>
    have stepped := copy.step_state state first
    rw [ScanState.run, List.map_cons, List.foldl_cons, stepped]
    exact ih (state.step first)

/-! ## Whole sources -/

/-- Copy an outline.  The depths belong to lines, not to places, and are for
copies that keep every line where it is. -/
def outline (outline : Outline) : Outline where
  units := outline.units.map copy.programUnit
  external := outline.external.map copy.procedure
  topLevel := outline.topLevel.map copy.heading
  lineDepths := outline.lineDepths
  errors := outline.errors.map copy.structuralError
  misplacedUses := outline.misplacedUses.map copy.use

theorem statementsOf_tokens (tokens : List Token) :
    Tokenized.statementsOf (tokens.map copy.token) =
      (Tokenized.statementsOf tokens).map (List.map copy.token) :=
  Tokenized.statementsOf_map copy.kind_token tokens

/-- The outline of copied statements is the copy of their outline, when every
line stays where it is. -/
theorem ofStatements_tokens (stays : ∀ line, copy.line line = line) (lineCount : Nat)
    (statements : List (List Token)) :
    Outline.ofStatements lineCount (statements.map (List.map copy.token)) =
      copy.outline (.ofStatements lineCount statements) := by
  have ran := copy.run_state .initial statements
  rw [initial_state] at ran
  have closed := copy.closeAll_state (ScanState.initial.run statements) (max lineCount 1)
    (ScanState.initial.run statements).depth
  rw [stays] at closed
  have depths_eq (state : ScanState) : (copy.state state).lineDepths lineCount =
      state.lineDepths lineCount := by
    have kept : Prod.map copy.line (id : Nat → Nat) = id := by
      funext pair
      exact Prod.ext (stays pair.1) rfl
    simp [ScanState.lineDepths, Transcription.state, kept]
  simp only [Outline.ofStatements, ran, depth_state, closed, depths_eq]
  rfl

end FortranStyle.Transcription
