import FortranStyle.Proofs.Ledger.Entry
import FortranStyle.Proofs.Position.Record
import FortranStyle.Proofs.Roster.Procedures

/-!
# What a statement does to ledgers

A statement that opens a scope adds an empty ledger.  A type declaration writes into the
ledger of the innermost scope, and so does an executable statement; nothing else is written.
-/

namespace FortranStyle

open Statement (unlabelled assignmentTarget? closer? isDivider header? isDeclaration
  typeDeclaration action?)

namespace ScanState

variable (state : ScanState)

/-- The named constants of the innermost program unit. -/
def unitConstants : List String :=
  match Frames.programUnit? state.frames with
  | some programUnit => programUnit.specification.parameters
  | none => []

end ScanState

/-- What a statement can write into the ledger of the innermost scope, given the named
constants of the program unit around and the tokens behind its label. -/
inductive Ledger.Writes (unitConstants : List String) (tokens : List Token) :
    (Ledger → Ledger) → Prop
  | nothing : Writes unitConstants tokens id
  | declares : Writes unitConstants tokens
      fun ledger =>
        (typeDeclaration tokens).declarations.foldl (Ledger.declare unitConstants) ledger
  | acts {action : Statement.Action} (found : action? tokens = some action) :
      Writes unitConstants tokens (Ledger.act action)

namespace ScanState

variable (state : ScanState)

/-! ## Recording -/

section Recording

variable {state} {tokens : List Token}

/-- A statement that writes into the ledger of the innermost scope, if into any. -/
def Records (state : ScanState) (tokens : List Token) (after : ScanState) : Prop :=
  ∃ write, Ledger.Writes state.unitConstants tokens write ∧ state.Rewrites write after

theorem Records.of_eq {after : ScanState} (same : after.ledgers = state.ledgers) :
    state.Records tokens after :=
  ⟨id, .nothing, state.rewrites_of_eq same⟩

theorem Records.of_mapNode {f : ScopeNode → ScopeNode}
    (same : ∀ node : ScopeNode, node.SameHeld (f node))
    (ledger_eq : ∀ node : ScopeNode, (f node).ledger = node.ledger) :
    state.Records tokens (state.mapNode f) :=
  ⟨id, .nothing, state.rewrites_mapNode same ledger_eq⟩

end Recording

end ScanState

/-! Of a steady change the ledger alone is left to look at. -/

theorem ScopeNode.Steady.sameHeld {node node' : ScopeNode} (steady : node.Steady node') :
    node.SameHeld node' := by
  cases steady with
  | programUnit own_eq procedures_eq interfaces_eq =>
    have token_eq := congrArg ProgramUnit.token own_eq
    exact .programUnit token_eq procedures_eq interfaces_eq
  | procedure _ children_eq interfaces_eq => exact .procedure children_eq interfaces_eq

namespace ScanState

section Recording

variable (state : ScanState) (tokens : List Token)

theorem sameHeld_mapSpecification (f : Specification → Specification) (node : ScopeNode) :
    node.SameHeld (node.mapSpecification f) := by
  cases node with
  | programUnit node => exact .programUnit rfl rfl rfl
  | procedure node => exact .procedure rfl rfl

/-- A statement about what the specification part uses or saves declares nothing. -/
theorem records_mapSpecification {f : Specification → Specification}
    (same : ∀ specification, (f specification).declarations = specification.declarations) :
    state.Records tokens (state.mapNode (·.mapSpecification f)) :=
  .of_mapNode (sameHeld_mapSpecification f) (ScopeNode.ledger_mapSpecification same)

theorem records_mapUnit {f : ProgramUnit → ProgramUnit}
    (steady : ∀ node, (ScopeNode.programUnit node).Steady (.programUnit (f node)))
    (same : ∀ node, (ScopeNode.programUnit (f node)).ledger =
      (ScopeNode.programUnit node).ledger) :
    state.Records tokens (state.mapNode (·.mapUnit f)) :=
  .of_mapNode (fun node => (ScopeNode.steady_mapUnit steady node).sameHeld)
    (ScopeNode.ledger_mapUnit same)

theorem records_mapProcedure {f : Procedure → Procedure}
    (steady : ∀ node, (ScopeNode.procedure node).Steady (.procedure (f node)))
    (same : ∀ node, (ScopeNode.procedure (f node)).ledger =
      (ScopeNode.procedure node).ledger) :
    state.Records tokens (state.mapProcedure f) :=
  .of_mapNode (fun node => (ScopeNode.steady_mapProcedure steady node).sameHeld)
    (ScopeNode.ledger_mapProcedure same)

/-- An executable statement writes its action. -/
theorem records_recordExecutable : state.Records tokens (state.recordExecutable tokens) := by
  unfold recordExecutable
  cases found : action? tokens with
  | none =>
    refine ⟨id, .nothing, state.rewrites_mapScope fun scope _ => ?_⟩
    exact ⟨.refl scope.node, rfl, rfl⟩
  | some action =>
    refine ⟨Ledger.act action, .acts found, ?_⟩
    have mapped : (state.mapFrames (Frames.mapScope fun scope =>
        { scope with inSpecification := false })).mapProcedure
          (fun node => { node with actions := node.actions ++ [action] }) =
        state.mapFrames (Frames.mapScope fun scope =>
          { scope with
            node := scope.node.mapProcedure fun node =>
              { node with actions := node.actions ++ [action] }
            inSpecification := false }) :=
      congrArg (fun frames => { state with frames })
        (Position.mapScope_mapScope _ _ state.frames)
    dsimp only
    rw [mapped]
    refine state.rewrites_mapScope fun scope _ => ⟨?_, rfl, scope.node.ledger_act action⟩
    apply ScopeNode.Steady.sameHeld
    apply ScopeNode.steady_mapProcedure
    exact fun _ => .procedure rfl rfl rfl

/-- A type declaration statement writes its declarations. -/
theorem records_recordDeclaration : state.Records tokens (state.recordDeclaration tokens) :=
  ⟨_, .declares, state.rewrites_mapNode
    (fun node => (ScopeNode.steady_declare _ _ node).sameHeld)
    (ScopeNode.ledger_foldl_declare _ _)⟩

theorem records_recordUse : state.Records tokens (state.recordUse tokens) := by
  unfold recordUse
  split
  · exact .of_eq rfl
  · split
    · exact state.records_mapSpecification tokens fun _ => rfl
    · exact .of_eq rfl

theorem records_recordImplicit : state.Records tokens (state.recordImplicit tokens) := by
  unfold recordImplicit
  split
  · exact state.records_mapSpecification tokens fun _ => rfl
  · exact .of_eq rfl

theorem records_recordAccess (visibility : Visibility) (word : Token) (rest : List Token) :
    state.Records tokens (state.recordAccess visibility word rest) := by
  apply state.records_mapUnit
  · intro node
    split
    · exact ScopeNode.steady_recordAccess _ _ _ node
    · exact .refl _
  · intro node
    split
    · exact ScopeNode.ledger_recordAccess _ _ _ node
    · rfl

theorem records_recordIntent (others : List Token) :
    state.Records tokens (state.recordIntent others) := by
  unfold recordIntent
  dsimp only
  split
  · refine state.records_mapProcedure tokens (fun _ => .procedure rfl rfl rfl) fun node => ?_
    simp only [ScopeNode.ledger, Argument.map_token_foldl fun arguments (name : Token) =>
      Argument.map_token_setIntent _ name.lower arguments]
  · exact .of_eq rfl

theorem records_recordExternal (others : List Token) :
    state.Records tokens (state.recordExternal others) := by
  refine state.records_mapProcedure tokens (fun _ => .procedure rfl rfl rfl) fun node => ?_
  simp only [ScopeNode.ledger, Argument.map_token_foldl fun arguments (name : Token) =>
    Argument.map_token_markProcedure name.lower arguments]

theorem records_recordPlain : state.Records tokens (state.recordPlain tokens) := by
  unfold recordPlain
  split
  · exact .of_eq rfl
  · split_ifs
    · exact state.records_recordUse _
    · exact state.records_recordImplicit _
    · exact state.records_recordDeclaration _
    · exact state.records_recordAccess _ _ _ _
    · exact state.records_recordAccess _ _ _ _
    · exact state.records_recordIntent _ _
    · exact state.records_mapSpecification _ fun _ => rfl
    · exact state.records_recordExternal _ _
    · exact .of_eq rfl
    · exact state.records_recordExecutable _

/-- The names in an interface block show in no ledger. -/
theorem ledgers_recordMember : (state.recordMember tokens).ledgers = state.ledgers := by
  simp only [recordMember]
  split
  · rename_i frames_eq
    split
    · rw [ledgers, ledgers, gathered, gathered, frames_eq]
      rfl
    · rfl
  · rfl

/-- Nor do enumerators. -/
theorem ledgers_recordEnumerators : (state.recordEnumerators tokens).ledgers = state.ledgers := by
  unfold recordEnumerators
  split
  · unfold ledgers gathered mapFrames
    dsimp only
    rw [(Frames.gathered_mapProgramUnit Home.kept state.frames _ _).1]
    · exact fun _ => .programUnit rfl rfl rfl
    · exact fun _ _ => rfl
  · rfl

/-- Nor does CONTAINS. -/
theorem ledgers_recordContains (token : Token) :
    (state.recordContains token).ledgers = state.ledgers := by
  obtain ⟨frames, units, external, topLevel, misplacedUses, errors, depths⟩ := state
  rcases frames with _ | ⟨frame, rest⟩
  · rfl
  cases frame with
  | scope scope =>
    obtain ⟨opener, node, inSpecification, nested⟩ := scope
    cases node with
    | programUnit node => rfl
    | procedure node => rfl
  | interface _ _ => rfl
  | derivedType _ _ => rfl
  | construct _ _ => rfl

end Recording

/-! ## Opening blocks -/

/-- The ledger of a scope that starts. -/
inductive Enters (tokens : List Token) : Multiset (Home × Ledger) → Prop
  | programUnit {token : Token} (read : token ∈ tokens) :
      Enters tokens {(.unit token, ⟨token, none, [], []⟩)}
  | procedure {token : Token} (read : token ∈ tokens) (home : Home) (arguments : List Token) :
      Enters tokens (home.keep ⟨token, some arguments, [], []⟩)

/-- What a statement does to the ledgers: it opens a scope, or it writes into the ledger of
the innermost one, if it does anything to them. -/
def Alters (state : ScanState) (tokens : List Token) (after : ScanState) : Prop :=
  (∃ entered, Enters tokens entered ∧ after.ledgers = entered + state.ledgers) ∨
    state.Records tokens after

section Opening

variable {state : ScanState} {tokens : List Token}

theorem Alters.of_eq {after : ScanState} (same : after.ledgers = state.ledgers) :
    state.Alters tokens after :=
  .inr (.of_eq same)

theorem ledgers_push (frame : Frame) {entered : Multiset (Home × Ledger)}
    (entered_eq : Frames.gathered Home.kept (frame :: state.frames) =
      entered + Frames.gathered Home.kept state.frames) :
    (state.push frame).ledgers = entered + state.ledgers := by
  rw [ledgers, ledgers, gathered, gathered, push, entered_eq]
  abel

theorem alters_openUnit? : ∀ after ∈ state.openUnit? tokens, state.Alters tokens after := by
  intro after opened
  cases tokens with
  | nil => contradiction
  | cons first rest =>
    obtain ⟨⟨kind, name⟩, heading, rfl⟩ := Option.map_eq_some_iff.mp opened
    refine .inl ⟨_, .programUnit (token_mem_of_unitHeading? heading), ?_⟩
    dsimp only
    split
    · exact ledgers_push _ rfl
    · exact ledgers_push _ rfl

theorem alters_openProcedure? :
    ∀ after ∈ state.openProcedure? tokens, state.Alters tokens after := by
  intro after opened
  cases tokens with
  | nil => contradiction
  | cons first rest =>
    obtain ⟨header, heading, rfl⟩ := Option.map_eq_some_iff.mp opened
    generalize holder_eq : Frames.holder? state.frames = holder
    have alone : (Procedure.begin header first.line holder).subtree =
        [.begin header first.line holder] := rfl
    have entered_eq : (Frames.home state.frames).kept
          (.procedure (.begin header first.line holder)) =
        (Frames.home state.frames).keep ⟨header.name, some header.arguments, [], []⟩ := by
      simp only [Home.kept, ScopeNode.ledger, Procedure.begin, List.map_map, Function.comp_def,
        List.map_id']
      rfl
    have pushed : Frames.gathered Home.kept
          (.scope ⟨first, .procedure (.begin header first.line holder), true, []⟩ ::
            state.frames) =
        (Frames.home state.frames).keep ⟨header.name, some header.arguments, [], []⟩ +
          Frames.gathered Home.kept state.frames := by
      rw [Frames.gathered, ScopeNode.gathered, alone, Procedure.gathered, List.map_singleton,
        List.sum_singleton, entered_eq]
      exact congrArg (· + _) (add_zero _)
    refine .inl ⟨_, .procedure (Statement.name_mem_of_header? heading)
      (Frames.home state.frames) header.arguments, ?_⟩
    dsimp only
    split
    · exact ledgers_push _ pushed
    · exact ledgers_push _ pushed

theorem alters_openInterface? :
    ∀ after ∈ state.openInterface? tokens, state.Alters tokens after := by
  intro after opened
  obtain ⟨block, heading, rfl⟩ := Option.map_eq_some_iff.mp opened
  have pushed : Frames.gathered Home.kept (.interface block.token block :: state.frames) =
      0 + Frames.gathered Home.kept state.frames := by
    rw [Frames.gathered, Statement.bodies_of_interfaceHeading? heading]
    rfl
  exact .of_eq ((ledgers_push _ pushed).trans (zero_add _))

theorem Records.push {after : ScanState} (records : state.Records tokens after) {frame : Frame}
    (pushed : Frames.gathered Home.kept (frame :: after.frames) =
      Frames.gathered Home.kept after.frames) : state.Records tokens (after.push frame) := by
  obtain ⟨write, writes, others, before_eq, after_eq⟩ := records
  refine ⟨write, writes, others, before_eq, ?_⟩
  rw [← after_eq, ledgers_push frame (pushed.trans (zero_add _).symm), zero_add]

theorem alters_openType? : ∀ after ∈ state.openType? tokens, state.Alters tokens after := by
  intro after opened
  cases tokens with
  | nil => contradiction
  | cons first rest =>
    obtain ⟨derivedType, -, rfl⟩ := Option.map_eq_some_iff.mp opened
    refine .inr (.push ?_ rfl)
    refine state.records_mapUnit _ (fun node => ?_) fun node => ?_
    · refine .trans ?_ (ScopeNode.steady_grant _ _ _ _)
      exact .programUnit rfl rfl rfl
    · exact ScopeNode.ledger_grant _ _ _ _

theorem alters_openConstruct? :
    ∀ after ∈ state.openConstruct? tokens, state.Alters tokens after := by
  intro after opened
  cases tokens with
  | nil => contradiction
  | cons first rest =>
    obtain ⟨kind, -, rfl⟩ := Option.map_eq_some_iff.mp opened
    refine .inr (.push ?_ rfl)
    split
    · exact .of_eq rfl
    · exact state.records_recordExecutable _

end Opening

/-! ## Statements -/

/-- What a statement does to the ledgers. -/
theorem alters_step (state : ScanState) (statement : List Token) :
    state.Alters (unlabelled statement) (state.step statement) := by
  cases unlabelled_eq : unlabelled statement with
  | nil =>
    rw [step_of_unlabelled_eq_nil unlabelled_eq]
    exact .of_eq rfl
  | cons first rest =>
  cases statement with
  | nil => contradiction
  | cons label others =>
  have deed := deed_step state label others unlabelled_eq
  generalize state.mark? (label :: others) = mark,
    state.step (label :: others) = after at deed
  cases deed with
  | executes => exact .inr ((state.recordDepth label _).records_recordExecutable _)
  | @closes closer =>
    refine .of_eq ?_
    exact state.gathered_close Home.overlooks_kept (fun _ => rfl) closer first _
  | divides => exact .of_eq rfl
  | contains => exact .of_eq (ledgers_recordContains _ first)
  | component => exact .of_eq rfl
  | enumerates => exact .of_eq (ledgers_recordEnumerators _ _)
  | member => exact .of_eq (ledgers_recordMember _ _)
  | opensUnit _ _ opened => exact @alters_openUnit? (state.recordDepth label _) _ after opened
  | opensProcedure _ _ opened =>
      exact @alters_openProcedure? (state.recordDepth label _) _ after opened
  | opensInterface _ _ opened =>
      exact @alters_openInterface? (state.recordDepth label _) _ after opened
  | opensType _ _ opened => exact @alters_openType? (state.recordDepth label _) _ after opened
  | opensConstruct _ _ opened =>
      exact @alters_openConstruct? (state.recordDepth label _) _ after opened
  | records => exact .inr ((state.recordDepth label _).records_recordPlain _)

end ScanState

end FortranStyle
