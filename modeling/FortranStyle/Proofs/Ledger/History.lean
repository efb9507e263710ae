import FortranStyle.Proofs.Intent.History
import FortranStyle.Proofs.Ledger.Step
import FortranStyle.Proofs.Reading.Name

/-!
# The tokens of ledgers

Each scope, declaration and action is told by a token of the statement that it comes from,
and no two by the same one.  So the tokens in all ledgers of a source are different, and an
entry tells which ledger it stands in.
-/

namespace FortranStyle

open Statement (unlabelled typeDeclaration action?)

/-! ## The tokens of a statement -/

theorem sublist_flatten_filterMap {α β : Type} {f : List α → Option β} {see : β → α}
    (heads : ∀ item found, f item = some found → item.head? = some (see found))
    (items : List (List α)) : ((items.filterMap f).map see).Sublist items.flatten := by
  induction items with
  | nil => exact .slnil
  | cons item rest ih =>
    rw [List.filterMap_cons, List.flatten_cons]
    split
    · exact ih.trans (List.sublist_append_right _ _)
    · rename_i found found_eq
      obtain ⟨more, rfl⟩ := List.head?_eq_some_iff.mp (heads item found found_eq)
      exact (ih.trans (List.sublist_append_right _ _)).cons_cons _

namespace Statement

theorem rest_ofSuffix_sublist (name : String) (tokens : List Token) :
    (TypeSpec.ofSuffix name tokens).rest.Sublist tokens := by
  have bracket (tokens : List Token) : (Bracket.beyond tokens).Sublist tokens :=
    List.drop_sublist _ _
  unfold TypeSpec.ofSuffix
  split
  · exact .slnil
  · split
    · exact bracket _
    · split
      · split
        · dsimp only
          split
          · exact ((bracket _).cons _)
          · exact ((List.Sublist.refl _).cons _).cons _
        · exact .refl _
      · exact .refl _

theorem rest_typeSpec_sublist (tokens : List Token) : (typeSpec tokens).rest.Sublist tokens := by
  unfold typeSpec
  split
  · exact .slnil
  · split
    · split
      · exact ((rest_ofSuffix_sublist _ _).cons _).cons _
      · exact (rest_ofSuffix_sublist _ _).cons _
    · exact (rest_ofSuffix_sublist _ _).cons _

theorem entities_sublist (tokens : List Token) :
    (typeDeclaration tokens).entities.flatten.Sublist tokens := by
  unfold typeDeclaration
  dsimp only
  split
  · exact (Bracket.flatten_splitFrom_sublist "," 0 _).trans (List.drop_sublist _ _)
  · exact (Bracket.flatten_splitFrom_sublist "," 0 _).trans (rest_typeSpec_sublist tokens)

theorem of_declare? {statement : TypeDeclaration} {entity : List Token} {declaration : Declaration}
    (declared : statement.declare? entity = some declaration) :
    entity.head? = some declaration.token ∧ declaration.token.isName = true ∧
      declaration.isAutomatic = false := by
  cases entity with
  | nil => contradiction
  | cons name rest =>
    rw [TypeDeclaration.declare?] at declared
    split at declared
    · rename_i isName
      cases declared
      exact ⟨rfl, isName, rfl⟩
    · contradiction

/-- The names that a type declaration statement declares stand in it, in order. -/
theorem declared_sublist (tokens : List Token) :
    ((typeDeclaration tokens).declarations.map (·.token)).Sublist tokens :=
  (sublist_flatten_filterMap (fun _ _ declared => (of_declare? declared).1) _).trans
    (entities_sublist tokens)

/-- The token that an action is told by: the target of an assignment, and the first token of
another statement. -/
def Action.token : Action → Token
  | assignment target => target
  | effect _ token _ => token

theorem token_mem_of_action? {tokens : List Token} {action : Action}
    (found : action? tokens = some action) : action.token ∈ tokens := by
  fun_induction action? tokens with
  | case1 => contradiction
  | case2 first rest target target_eq =>
    cases found
    rw [assignmentTarget?] at target_eq
    split at target_eq
    · cases target_eq
      exact List.mem_cons_self
    · contradiction
  | case3 => contradiction
  | case4 first noTarget bracket condition guards ih =>
    refine List.mem_cons_of_mem _ ?_
    exact List.mem_of_mem_drop (ih found)
  | case5 first rest noTarget noGuard isError isStop =>
    cases found
    exact List.mem_cons_self
  | case6 => contradiction
  | case7 first rest noTarget noGuard noError isEffect unit =>
    cases found
    exact List.mem_cons_self
  | case8 => contradiction

end Statement

/-! ## The tokens of a ledger -/

namespace Ledger

/-- The tokens that a scope and its entries are told by. -/
def tokens (ledger : Ledger) : List Token :=
  ledger.token :: (ledger.declarations.map (·.token) ++ ledger.actions.map (·.token))

variable {unitConstants : List String} {tokens : List Token} {write : Ledger → Ledger}

theorem foldl_declare (unitConstants : List String) (declarations : List Declaration)
    (ledger : Ledger) :
    ∃ added, declarations.foldl (declare unitConstants) ledger =
        { ledger with declarations := ledger.declarations ++ added } ∧
      added.map (·.token) = declarations.map (·.token) := by
  induction declarations generalizing ledger with
  | nil => exact ⟨[], by rw [List.append_nil]; rfl, rfl⟩
  | cons declaration rest ih =>
    obtain ⟨added, ledger_eq, tokens_eq⟩ := ih (ledger.declare unitConstants declaration)
    refine ⟨ledger.judge unitConstants declaration :: added, ?_, congrArg₂ List.cons rfl tokens_eq⟩
    rw [List.foldl_cons, ledger_eq]
    simp [declare]

/-- What a statement writes is told by tokens of the statement, and added at the end. -/
theorem Writes.exists_added (writes : Writes unitConstants tokens write) (ledger : Ledger) :
    ∃ declared acted, write ledger =
        { ledger with
          declarations := ledger.declarations ++ declared
          actions := ledger.actions ++ acted } ∧
      (declared.map (·.token) ++ acted.map (·.token)).Sublist tokens ∧
      ∀ declaration ∈ declared, declaration.token.isName = true := by
  cases writes with
  | nothing => exact ⟨[], [], by simp, List.nil_sublist _, List.forall_mem_nil _⟩
  | declares =>
    obtain ⟨added, ledger_eq, tokens_eq⟩ :=
      foldl_declare unitConstants (typeDeclaration tokens).declarations ledger
    refine ⟨added, [], ?_, ?_, fun declaration listed => ?_⟩
    · dsimp only
      rw [ledger_eq, List.append_nil]
    · rw [tokens_eq, List.map_nil, List.append_nil]
      exact Statement.declared_sublist tokens
    · have token_mem := List.mem_map_of_mem (f := Declaration.token) listed
      rw [tokens_eq, List.mem_map] at token_mem
      obtain ⟨declared, declared_mem, token_eq⟩ := token_mem
      obtain ⟨entity, -, declares⟩ := List.mem_filterMap.mp declared_mem
      rw [← token_eq]
      exact (Statement.of_declare? declares).2.1
  | @acts action found =>
    have single : [action.token].Sublist tokens :=
      List.singleton_sublist.mpr (Statement.token_mem_of_action? found)
    unfold act
    split
    · exact ⟨[], [], by simp, List.nil_sublist _, List.forall_mem_nil _⟩
    · exact ⟨[], [action], by simp, single, List.forall_mem_nil _⟩

/-- A ledger that a statement has just started, with its place: nothing is written in it. -/
structure IsFresh (tokens : List Token) (entry : Home × Ledger) : Prop where
  read : entry.2.token ∈ tokens
  declarations_eq : entry.2.declarations = []
  actions_eq : entry.2.actions = []
  home_eq : entry.2.arguments = none → entry.1 = .unit entry.2.token

end Ledger

/-! ## The tokens of all ledgers -/

/-- The tokens in ledgers. -/
def Ledger.written (ledgers : Multiset (Home × Ledger)) : Multiset Token :=
  ledgers.bind fun entry => ↑entry.2.tokens

namespace ScanState

variable {state : ScanState} {statement : List Token}

/-- The innermost scope has one ledger at most. -/
theorem innermostLedger_cases (state : ScanState) :
    state.innermostLedger = 0 ∨
      ∃ scope, Frames.scope? state.frames = some scope ∧
        state.innermostLedger = {(Frames.home state.frames, scope.node.ledger)} := by
  unfold innermostLedger
  cases Frames.scope? state.frames with
  | none => exact .inl rfl
  | some scope =>
    obtain ⟨-, nothing⟩ | single := (Frames.home state.frames).keep_cases scope.node.ledger
    · exact .inl nothing
    · exact .inr ⟨scope, rfl, single⟩

theorem Enters.isFresh {tokens : List Token} {entered : Multiset (Home × Ledger)}
    (enters : Enters tokens entered) :
    entered = 0 ∨ ∃ entry, entered = {entry} ∧ Ledger.IsFresh tokens entry := by
  cases enters with
  | programUnit read => exact .inr ⟨_, rfl, read, rfl, rfl, fun _ => rfl⟩
  | @procedure token read home arguments =>
    obtain ⟨-, nothing⟩ | single := home.keep_cases ⟨token, some arguments, [], []⟩
    · exact .inl nothing
    · exact .inr ⟨_, single, read, rfl, rfl, fun noProcedure => by contradiction⟩

/-- The tokens that a statement adds to the ledgers stand in it. -/
theorem written_step_le (state : ScanState) (statement : List Token) :
    Ledger.written (state.step statement).ledgers ≤ ↑statement + Ledger.written state.ledgers := by
  have behind : (↑(unlabelled statement) : Multiset Token) ≤ ↑statement :=
    (Statement.unlabelled_sublist statement).subperm
  refine le_trans ?_ (add_le_add_left behind _)
  rcases state.alters_step statement with ⟨entered, enters, ledgers_eq⟩ | records
  · rw [ledgers_eq, Ledger.written, Multiset.add_bind]
    refine add_le_add_left ?_ _
    obtain nothing | ⟨entry, single, fresh⟩ := enters.isFresh
    · rw [nothing]
      exact Multiset.zero_le _
    · rw [single, Multiset.singleton_bind, Ledger.tokens, fresh.declarations_eq, fresh.actions_eq]
      exact Multiset.singleton_le.mpr fresh.read
  · obtain ⟨write, writes, others, before_eq, after_eq⟩ := records
    rw [before_eq, after_eq, Ledger.written, Ledger.written, Multiset.add_bind, Multiset.add_bind,
      ← add_assoc]
    refine add_le_add_left ?_ _
    rcases state.innermostLedger_cases with nothing | ⟨scope, -, single⟩
    · rw [nothing]
      exact Multiset.zero_le _
    · obtain ⟨declared, acted, write_eq, added, -⟩ := writes.exists_added scope.node.ledger
      rw [single, Multiset.map_singleton, Multiset.singleton_bind, Multiset.singleton_bind,
        Prod.map_apply, write_eq]
      calc ((Ledger.tokens _ : List Token) : Multiset Token)
          = ↑(declared.map (·.token) ++ acted.map (·.token)) +
              ↑scope.node.ledger.tokens := by
            simp only [Ledger.tokens, List.map_append, ← Multiset.coe_add, ← Multiset.cons_coe,
              ← Multiset.singleton_add]
            abel
        _ ≤ _ := by
          gcongr
          exact added.subperm

theorem written_run_le (state : ScanState) (statements : List (List Token)) :
    Ledger.written (state.run statements).ledgers ≤
      ↑statements.flatten + Ledger.written state.ledgers :=
  @run_le (fun state => Ledger.written state.ledgers) written_step_le state statements

/-! ## One ledger at a time -/

section Each

variable {good : Home × Ledger → Prop}

/-- A statement keeps what is true of each ledger, when it is true of new ones and stays so
when something is written. -/
theorem forall_ledgers_step
    (starts : ∀ entry, Ledger.IsFresh (unlabelled statement) entry → good entry)
    (keeps : ∀ home ledger write,
      Ledger.Writes state.unitConstants (unlabelled statement) write →
        good (home, ledger) → good (home, write ledger))
    (held : ∀ entry ∈ state.ledgers, good entry) :
    ∀ entry ∈ (state.step statement).ledgers, good entry := by
  rcases state.alters_step statement with ⟨entered, enters, ledgers_eq⟩ | records
  · rw [ledgers_eq]
    intro entry member
    rcases Multiset.mem_add.mp member with new | old
    · obtain nothing | ⟨first, single, fresh⟩ := enters.isFresh
      · rw [nothing] at new
        exact absurd new (Multiset.notMem_zero _)
      · rw [single, Multiset.mem_singleton] at new
        rw [new]
        exact starts first fresh
    · exact held entry old
  · obtain ⟨write, writes, others, before_eq, after_eq⟩ := records
    rw [before_eq] at held
    rw [after_eq]
    intro entry member
    rcases Multiset.mem_add.mp member with written | old
    · obtain ⟨⟨home, ledger⟩, own, rfl⟩ := Multiset.mem_map.mp written
      exact keeps home ledger write writes (held _ (Multiset.mem_add.mpr (.inl own)))
    · exact held entry (Multiset.mem_add.mpr (.inr old))

theorem forall_ledgers_run {statements : List (List Token)}
    (starts : ∀ statement ∈ statements, ∀ entry,
      Ledger.IsFresh (unlabelled statement) entry → good entry)
    (keeps : ∀ statement ∈ statements, ∀ constants home ledger write,
      Ledger.Writes constants (unlabelled statement) write →
        good (home, ledger) → good (home, write ledger))
    (held : ∀ entry ∈ state.ledgers, good entry) :
    ∀ entry ∈ (state.run statements).ledgers, good entry := by
  induction statements generalizing state with
  | nil => exact held
  | cons statement rest ih =>
    rw [List.forall_mem_cons] at starts keeps
    exact ih starts.2 keeps.2 (forall_ledgers_step starts.1 (keeps.1 _) held)

end Each

theorem ledgers_initial : initial.ledgers = 0 :=
  rfl

/-- The ledger of a program unit stands in its own place. -/
theorem home_eq_of_mem_ledgers (statements : List (List Token)) :
    ∀ entry ∈ (initial.run statements).ledgers,
      entry.2.arguments = none → entry.1 = .unit entry.2.token := by
  refine forall_ledgers_run (fun _ _ _ fresh => fresh.home_eq) ?_ (by simp [ledgers_initial])
  intro statement _ constants home ledger write writes held noProcedure
  obtain ⟨declared, acted, write_eq, -, -⟩ := writes.exists_added ledger
  dsimp only at held noProcedure ⊢
  rw [write_eq] at noProcedure ⊢
  exact held noProcedure

/-- What is declared is told by a name of the source. -/
theorem isSpelled_of_mem_ledgers {statements : List (List Token)}
    (spelled : ∀ statement ∈ statements, SpellsNames statement) :
    ∀ entry ∈ (initial.run statements).ledgers,
      ∀ declaration ∈ entry.2.declarations, declaration.token.IsSpelled := by
  refine forall_ledgers_run ?_ ?_ (by simp [ledgers_initial])
  · intro statement _ entry fresh
    rw [fresh.declarations_eq]
    exact List.forall_mem_nil _
  · intro statement statement_mem constants home ledger write writes held declaration listed
    obtain ⟨declared, acted, write_eq, inside, named⟩ := writes.exists_added ledger
    dsimp only at held listed
    rw [write_eq] at listed
    rcases List.mem_append.mp listed with old | new
    · exact held declaration old
    · have token_mem := List.mem_map_of_mem (f := Declaration.token) new
      exact spelled statement statement_mem _ ((Statement.unlabelled_sublist statement).subset
        (inside.subset (List.mem_append_left _ token_mem))) (named declaration new)

end ScanState

/-! ## Outlines -/

namespace Outline

/-- Where the procedures with a program unit are found. -/
def homeOf (programUnit? : Option ProgramUnit) : Home :=
  match programUnit? with
  | some programUnit => .unit programUnit.token
  | none => .external

/-- The declarations of the program unit that a procedure is found in. -/
def unitDeclarations (programUnit? : Option ProgramUnit) : List Declaration :=
  match programUnit? with
  | some programUnit => programUnit.specification.declarations
  | none => []

/-- The ledgers of an outline are those of its program units and its procedures. -/
theorem ledgers_eq (outline : Outline) :
    outline.ledgers =
      ↑(outline.units.map fun node =>
          (Home.unit node.token, (ScopeNode.programUnit node).ledger)) +
        ↑(outline.procedures.map fun found =>
          (homeOf found.2, (ScopeNode.procedure found.1).ledger)) := by
  have each (home : Home) (found : home ≠ .lost) (procedures : List Procedure) :
      Procedure.gathered Home.kept home procedures =
        ↑(procedures.map fun node => (home, (ScopeNode.procedure node).ledger)) := by
    induction procedures with
    | nil => rfl
    | cons node rest ih =>
      have head : Home.kept home (.procedure node) =
          {(home, (ScopeNode.procedure node).ledger)} :=
        (home.keep_cases _).resolve_left fun lost => found lost.1
      rw [Procedure.gathered, List.map_cons, List.sum_cons, ← Procedure.gathered, ih, head]
      rfl
  have units (programUnits : List ProgramUnit) :
      ProgramUnit.gatheredAll Home.kept programUnits =
        ↑(programUnits.map fun node =>
          (Home.unit node.token, (ScopeNode.programUnit node).ledger)) +
        ↑((programUnits.flatMap fun node => node.allProcedures.map (·, some node)).map
          fun found => (homeOf found.2, (ScopeNode.procedure found.1).ledger)) := by
    induction programUnits with
    | nil => rfl
    | cons node rest ih =>
      have head : Home.kept (.unit node.token) (.programUnit node) =
          {(Home.unit node.token, (ScopeNode.programUnit node).ledger)} := rfl
      rw [ProgramUnit.gatheredAll_cons, ih, ProgramUnit.gathered, head,
        each _ (by simp), List.map_cons, List.flatMap_cons, List.map_append, List.map_map,
        ← Multiset.cons_coe, ← Multiset.coe_add, ← Multiset.singleton_add]
      simp only [Function.comp_def, homeOf]
      abel
  rw [ledgers, gathered, units, each _ (by simp), procedures, List.map_append, List.map_map,
    ← Multiset.coe_add, ← add_assoc]
  rfl

/-! ## Sources -/

section Sources

variable (lines : List String)

theorem ledgers_ofTokenized :
    (ofTokenized (.ofLines lines)).ledgers =
      (ScanState.initial.run (Tokenized.ofLines lines).statements).ledgers :=
  ledgers_ofStatements _ _

theorem written_ofTokenized_le :
    Ledger.written (ofTokenized (.ofLines lines)).ledgers ≤
      ↑(Tokenized.ofLines lines).statements.flatten := by
  rw [ledgers_ofTokenized]
  exact (ScanState.written_run_le _ _).trans (add_zero _).le

/-- No token tells two things. -/
theorem nodup_written : (Ledger.written (ofTokenized (.ofLines lines)).ledgers).Nodup :=
  Multiset.nodup_of_le (written_ofTokenized_le lines) (Tokenized.nodup_statements lines)

variable {lines}

theorem ledger_mem_of_mem_units {programUnit : ProgramUnit}
    (listed : programUnit ∈ (ofTokenized (.ofLines lines)).units) :
    (Home.unit programUnit.token, (ScopeNode.programUnit programUnit).ledger) ∈
      (ofTokenized (.ofLines lines)).ledgers := by
  rw [ledgers_eq]
  exact Multiset.mem_add.mpr (.inl (Multiset.mem_coe.mpr
    (List.mem_map_of_mem
      (f := fun node => (Home.unit node.token, (ScopeNode.programUnit node).ledger)) listed)))

/-- A ledger is told by the token of its scope. -/
theorem eq_of_mem_ledgers {entry other : Home × Ledger}
    (listed : entry ∈ (ofTokenized (.ofLines lines)).ledgers)
    (listed' : other ∈ (ofTokenized (.ofLines lines)).ledgers)
    (same : entry.2.token = other.2.token) : entry = other :=
  eq_of_nodup_bind (nodup_written lines) listed listed'
    (Multiset.mem_coe.mpr (List.mem_cons_self (a := entry.2.token)))
    (by rw [same]; exact Multiset.mem_coe.mpr List.mem_cons_self)

variable {found : Procedure × Option ProgramUnit}
  (listed : found ∈ (ofTokenized (.ofLines lines)).procedures)
include listed

theorem ledger_mem_of_mem_procedures :
    (homeOf found.2, (ScopeNode.procedure found.1).ledger) ∈
      (ofTokenized (.ofLines lines)).ledgers := by
  rw [ledgers_eq]
  exact Multiset.mem_add.mpr (.inr (Multiset.mem_coe.mpr (List.mem_map_of_mem listed)))

theorem mem_units_of_mem_procedures {programUnit : ProgramUnit}
    (holder : found.2 = some programUnit) :
    programUnit ∈ (ofTokenized (.ofLines lines)).units := by
  rcases List.mem_append.mp listed with inUnit | outside
  · obtain ⟨node, node_mem, member⟩ := List.mem_flatMap.mp inUnit
    obtain ⟨procedure, -, rfl⟩ := List.mem_map.mp member
    cases holder
    exact node_mem
  · obtain ⟨procedure, -, rfl⟩ := List.mem_map.mp outside
    contradiction

/-- The local names of a procedure have the characters of a name. -/
theorem isNameChar_of_mem_localNames {name : String} (isLocal : name ∈ found.1.localNames) :
    ∀ c ∈ name.toList, Lexeme.isNameChar c = true := by
  obtain ⟨declaration, declared, rfl⟩ := List.mem_map.mp (List.mem_of_mem_filter isLocal)
  have entry := ledger_mem_of_mem_procedures listed
  rw [ledgers_ofTokenized] at entry
  exact (ScanState.isSpelled_of_mem_ledgers
    (fun _ => Tokenized.spellsNames_of_mem_statements lines) _ entry declaration
      declared).isNameChar_lower

end Sources

end Outline

end FortranStyle
