import FortranStyle.Proofs.Intent.Recording

/-!
# Ledgers

The ledger of a program unit or procedure holds what is recorded in it one after the other:
its declarations, and the actions of its executable statements.  The ledgers of a source are
those of all scopes that have started, each with the place where its procedures are found.
Closing a block changes none of them, and what a statement records goes into the ledger of
the innermost scope.
-/

namespace FortranStyle

/-- What is recorded in a program unit or procedure, whose dummy arguments are known from its
header on. -/
structure Ledger where
  token : Token
  /-- The dummy arguments of a procedure. -/
  arguments : Option (List Token)
  declarations : List Declaration
  actions : List Statement.Action

namespace Ledger

/-- Whether a name, given in small letters, is the name of a local variable of a procedure. -/
def hasLocal (ledger : Ledger) (name : String) : Bool :=
  ledger.arguments.any fun arguments => !arguments.any (·.lower == name)

/-- The named constants. -/
def constants (ledger : Ledger) : List String :=
  (ledger.declarations.filter (·.isParameter)).map (·.name)

/-- A declaration as it is recorded: in a procedure it is known whether it is automatic, given
the named constants of the program unit around. -/
def judge (unitConstants : List String) (ledger : Ledger) (declaration : Declaration) :
    Declaration :=
  { declaration with
    isAutomatic := if ledger.arguments.isNone then declaration.isAutomatic else
      ledger.hasLocal declaration.name &&
        declaration.hasRunTimeBounds (ledger.constants ++ unitConstants) }

/-- Add a declaration. -/
def declare (unitConstants : List String) (ledger : Ledger) (declaration : Declaration) : Ledger :=
  { ledger with declarations := ledger.declarations ++ [ledger.judge unitConstants declaration] }

/-- Add an action.  Program units have none. -/
def act (action : Statement.Action) (ledger : Ledger) : Ledger :=
  if ledger.arguments.isNone then ledger
  else { ledger with actions := ledger.actions ++ [action] }

end Ledger

/-! ## Scopes -/

namespace ScopeNode

/-- The ledger of a program unit or procedure. -/
def ledger : ScopeNode → Ledger
  | programUnit node => ⟨node.token, none, node.specification.declarations, []⟩
  | procedure node =>
      ⟨node.token, some (node.arguments.map (·.token)), node.specification.declarations,
        node.actions⟩

end ScopeNode

namespace Argument

theorem map_token_setIntent (intent name : String) (arguments : List Argument) :
    (setIntent intent name arguments).map (·.token) = arguments.map (·.token) :=
  map_setIntent (fun _ _ => rfl) intent name arguments

theorem map_token_markProcedure (name : String) (arguments : List Argument) :
    (markProcedure name arguments).map (·.token) = arguments.map (·.token) := by
  have bare := congrArg (List.map Argument.token) (map_bare_markProcedure name arguments)
  rwa [List.map_map, List.map_map] at bare

theorem map_token_foldl {α : Type} {change : List Argument → α → List Argument}
    (same : ∀ arguments item, (change arguments item).map (·.token) = arguments.map (·.token))
    (items : List α) (arguments : List Argument) :
    (items.foldl change arguments).map (·.token) = arguments.map (·.token) := by
  induction items generalizing arguments with
  | nil => rfl
  | cons item rest ih => rw [List.foldl_cons, ih, same]

end Argument

namespace Procedure

/-- A name is that of a dummy argument, or of a local variable. -/
theorem hasLocal_ledger (procedure : Procedure) (name : String) :
    (ScopeNode.procedure procedure).ledger.hasLocal name =
      !(procedure.argument? name).isSome := by
  rw [Ledger.hasLocal, ScopeNode.ledger, Option.any_some, argument?, List.isSome_find?,
    List.any_map]
  rfl

end Procedure

namespace ScopeNode

theorem ledger_grant (node : ProgramUnit) (visibility : Option Visibility) (name : String)
    (token : Token) :
    (programUnit (node.grant visibility name token)).ledger = (programUnit node).ledger := by
  simp only [ProgramUnit.grant]
  split
  · split <;> rfl
  · split <;> rfl
  · rfl

/-- A declaration is added to the ledger. -/
theorem ledger_declare (constants : List String) (node : ScopeNode) (declaration : Declaration) :
    (node.declare constants declaration).ledger = node.ledger.declare constants declaration := by
  cases node with
  | programUnit node =>
    have granted := ledger_grant node declaration.visibility declaration.name declaration.token
    have token_eq := congrArg Ledger.token granted
    have declared_eq := congrArg Ledger.declarations granted
    dsimp only [ledger] at token_eq declared_eq
    simp only [declare, ProgramUnit.declare]
    split
    · simp only [ledger, token_eq, declared_eq]
      rfl
    · rfl
  | procedure node =>
    have arguments_eq : (node.declare constants declaration).arguments.map (·.token) =
        node.arguments.map (·.token) := by
      simp only [Procedure.declare]
      split <;> split <;>
        simp only [Argument.map_token_markProcedure, Argument.map_token_setIntent]
    have isLocal := node.hasLocal_ledger declaration.name
    simp only [declare, ledger, Ledger.declare, Ledger.judge, arguments_eq] at isLocal ⊢
    simp only [Procedure.declare, isLocal]
    rfl

theorem ledger_foldl_declare (constants : List String) (declarations : List Declaration)
    (node : ScopeNode) :
    (declarations.foldl (declare constants) node).ledger =
      declarations.foldl (Ledger.declare constants) node.ledger := by
  induction declarations generalizing node with
  | nil => rfl
  | cons declaration rest ih => rw [List.foldl_cons, List.foldl_cons, ih, ledger_declare]

theorem ledger_recordAccess (visibility : Visibility) (word : Token) (rest : List Token)
    (node : ProgramUnit) :
    (programUnit (node.recordAccess visibility word rest)).ledger = (programUnit node).ledger := by
  unfold ProgramUnit.recordAccess
  split
  · rfl
  · generalize Bracket.items rest = items
    induction items generalizing node with
    | nil => rfl
    | cons item more ih =>
      rw [List.foldl_cons, ih]
      split
      · rfl
      · exact ledger_grant _ _ _ _

theorem ledger_mapSpecification {f : Specification → Specification}
    (same : ∀ specification, (f specification).declarations = specification.declarations)
    (node : ScopeNode) : (node.mapSpecification f).ledger = node.ledger := by
  cases node <;> simp only [mapSpecification, ledger, same]

theorem ledger_mapProcedure {f : Procedure → Procedure}
    (same : ∀ node, (procedure (f node)).ledger = (procedure node).ledger) (node : ScopeNode) :
    (node.mapProcedure f).ledger = node.ledger := by
  cases node with
  | programUnit node => rfl
  | procedure node => exact same node

theorem ledger_mapUnit {f : ProgramUnit → ProgramUnit}
    (same : ∀ node, (programUnit (f node)).ledger = (programUnit node).ledger) (node : ScopeNode) :
    (node.mapUnit f).ledger = node.ledger := by
  cases node with
  | programUnit node => exact same node
  | procedure node => rfl

/-- An action is added to the ledger of a procedure. -/
theorem ledger_act (action : Statement.Action) (node : ScopeNode) :
    (node.mapProcedure fun node => { node with actions := node.actions ++ [action] }).ledger =
      node.ledger.act action := by
  cases node <;> rfl

end ScopeNode

/-! ## All scopes -/

/-- A ledger with its place, which bodies of interface blocks in no scope do not have. -/
def Home.keep : Home → Ledger → Multiset (Home × Ledger)
  | lost, _ => 0
  | home, ledger => {(home, ledger)}

theorem Home.keep_map (home : Home) (write : Ledger → Ledger) (ledger : Ledger) :
    home.keep (write ledger) = (home.keep ledger).map (Prod.map id write) := by
  cases home <;> rfl

theorem Home.keep_cases (home : Home) (ledger : Ledger) :
    home = lost ∧ home.keep ledger = 0 ∨ home.keep ledger = {(home, ledger)} := by
  cases home with
  | lost => exact .inl ⟨rfl, rfl⟩
  | unit token => exact .inr rfl
  | external => exact .inr rfl

/-- The ledger of a scope with its place. -/
def Home.kept (home : Home) (node : ScopeNode) : Multiset (Home × Ledger) :=
  home.keep node.ledger

/-- Neither what a scope holds nor how it ends shows in its ledger. -/
theorem Home.overlooks_kept : Overlooks kept where
  child home node _ := congrArg home.keep (by cases node <;> rfl)
  block home node _ := congrArg home.keep (by cases node <;> rfl)
  procedureEnd home node endLine := by
    refine congrArg home.keep ?_
    simp only [ScopeNode.ledger, Procedure.finish,
      Argument.map_token_foldl fun arguments name =>
        Argument.map_token_markProcedure name arguments]
  unitEnd _ _ _ := rfl
  visibility _ _ _ := rfl

/-- The ledgers of all scopes that have started. -/
def ScanState.ledgers (state : ScanState) : Multiset (Home × Ledger) :=
  state.gathered Home.kept

/-- The ledgers of all scopes of an outline. -/
def Outline.ledgers (outline : Outline) : Multiset (Home × Ledger) :=
  outline.gathered Home.kept

/-- In the end the ledgers are those after all statements. -/
theorem Outline.ledgers_ofStatements (lineCount : Nat) (statements : List (List Token)) :
    (Outline.ofStatements lineCount statements).ledgers =
      (ScanState.initial.run statements).ledgers :=
  ScanState.gathered_ofStatements Home.overlooks_kept (fun _ => rfl) lineCount statements

/-! ## The innermost scope -/

namespace ScanState

variable (state : ScanState)

/-- The ledger of the innermost scope with its place. -/
def innermostLedger : Multiset (Home × Ledger) :=
  match Frames.scope? state.frames with
  | some scope => (Frames.home state.frames).kept scope.node
  | none => 0

/-- Another state has the same ledgers, but that something is written into the one of the
innermost scope. -/
def Rewrites (write : Ledger → Ledger) (after : ScanState) : Prop :=
  ∃ others, state.ledgers = state.innermostLedger + others ∧
    after.ledgers = state.innermostLedger.map (Prod.map id write) + others

/-- What is recorded in the innermost scope goes into its ledger. -/
theorem rewrites_mapScope {f : Scope → Scope} {write : Ledger → Ledger}
    (writes : ∀ scope ∈ Frames.scope? state.frames, scope.node.SameHeld (f scope).node ∧
      (f scope).nested = scope.nested ∧ (f scope).node.ledger = write scope.node.ledger) :
    state.Rewrites write (state.mapFrames (Frames.mapScope f)) := by
  unfold Rewrites innermostLedger
  cases innermost : Frames.scope? state.frames with
  | none =>
    rw [mapFrames, Frames.mapScope_of_scope?_none _ f innermost]
    exact ⟨state.ledgers, (zero_add _).symm, (zero_add _).symm⟩
  | some scope =>
    obtain ⟨same, nested_eq, ledger_eq⟩ := writes scope innermost
    obtain ⟨others, before_eq, after_eq⟩ :=
      Frames.exists_gathered_mapScope Home.kept state.frames innermost same nested_eq
    refine ⟨ProgramUnit.gatheredAll Home.kept state.units + others +
      Procedure.gathered Home.kept .external (Procedure.forest state.external), ?_, ?_⟩
    · rw [ledgers, gathered, before_eq]
      abel
    · have written : (Frames.home state.frames).kept (f scope).node =
          ((Frames.home state.frames).kept scope.node).map (Prod.map id write) := by
        rw [Home.kept, ledger_eq, Home.keep_map, Home.kept]
      rw [ledgers, gathered, mapFrames, after_eq, written]
      abel

theorem rewrites_mapNode {f : ScopeNode → ScopeNode} {write : Ledger → Ledger}
    (same : ∀ node : ScopeNode, node.SameHeld (f node))
    (writes : ∀ node : ScopeNode, (f node).ledger = write node.ledger) :
    state.Rewrites write (state.mapNode f) :=
  state.rewrites_mapScope fun scope _ => ⟨same scope.node, rfl, writes scope.node⟩

/-- What leaves the ledgers as they are writes nothing. -/
theorem rewrites_of_eq {after : ScanState} (same : after.ledgers = state.ledgers) :
    state.Rewrites id after := by
  have kept : state.Rewrites id (state.mapFrames (Frames.mapScope id)) :=
    state.rewrites_mapScope fun scope _ => ⟨.refl scope.node, rfl, rfl⟩
  obtain ⟨others, before_eq, -⟩ := kept
  refine ⟨others, before_eq, ?_⟩
  rw [Prod.map_id, Multiset.map_id, same, before_eq]

end ScanState

end FortranStyle
