import FortranStyle.Proofs.Host.Walk

/-!
# Assignments of functions

The rule on side effects reports an assignment of a function exactly when the target is a
dummy argument that does not leave the function, or a name from outside that the walk knows:
a variable of the program unit around, or a local name of a procedure around.  It does not
know the dummy arguments of the procedures around, and takes their constants for variables.
-/

namespace FortranStyle

open Ledger (written)

/-! ## Side effects of one procedure -/

namespace Procedure

/-- A name is that of a dummy argument that does not leave the procedure. -/
def KeepsArgument (procedure : Procedure) (name : String) : Prop :=
  ∃ argument ∈ procedure.argument? name,
    argument.intent ≠ some "out" ∧ argument.intent ≠ some "inout"

instance (procedure : Procedure) (name : String) : Decidable (procedure.KeepsArgument name) :=
  inferInstanceAs (Decidable (∃ argument ∈ procedure.argument? name, _))

/-- A name is neither a dummy argument nor declared nor the result. -/
structure IsForeign (procedure : Procedure) (name : String) : Prop where
  noArgument : procedure.argument? name = none
  undeclared : name ∉ procedure.specification.names
  noResult : name ≠ procedure.resultName

instance (procedure : Procedure) (name : String) : Decidable (procedure.IsForeign name) :=
  decidable_of_iff (procedure.argument? name = none ∧ name ∉ procedure.specification.names ∧
      name ≠ procedure.resultName)
    ⟨fun ⟨noArgument, undeclared, noResult⟩ => ⟨noArgument, undeclared, noResult⟩,
      fun foreign => ⟨foreign.noArgument, foreign.undeclared, foreign.noResult⟩⟩

/-- A name is that of a variable or dummy argument of the procedure. -/
def HasVariable (procedure : Procedure) (name : String) : Prop :=
  (procedure.argument? name).isSome = true ∨
    ∃ declaration ∈ procedure.specification.declarations,
      declaration.name = name ∧ declaration.isParameter = false

instance (procedure : Procedure) (name : String) : Decidable (procedure.HasVariable name) :=
  inferInstanceAs (Decidable (_ ∨ _))

variable {procedure : Procedure} {host : List String} {token : Token} {text : String}

theorem mem_localNames {name : String} :
    name ∈ procedure.localNames ↔
      name ∈ procedure.specification.names ∧ procedure.argument? name = none := by
  rw [localNames, List.mem_filter, Option.isNone_iff_eq_none]

/-- When no name of an argument and no constant is meant, the local names are those of
variables. -/
theorem mem_localNames_iff_hasVariable {name : String}
    (noArgument : procedure.argument? name = none)
    (noConstant : name ∉ procedure.specification.parameters) :
    name ∈ procedure.localNames ↔ procedure.HasVariable name := by
  rw [mem_localNames, HasVariable, noArgument, Option.isSome_none,
    or_iff_right Bool.false_ne_true, and_iff_left rfl]
  constructor
  · intro declared
    obtain ⟨declaration, listed, rfl⟩ := List.mem_map.mp declared
    refine ⟨declaration, listed, rfl, Bool.eq_false_iff.mpr fun isParameter => noConstant ?_⟩
    exact List.mem_map.mpr ⟨declaration, List.mem_filter.mpr ⟨listed, isParameter⟩, rfl⟩
  · rintro ⟨declaration, listed, rfl, -⟩
    exact List.mem_map_of_mem listed

theorem mem_assignments : token ∈ procedure.assignments ↔
    Statement.Action.assignment token ∈ procedure.actions := by
  rw [assignments, List.mem_filterMap]
  constructor
  · rintro ⟨action, listed, target_eq⟩
    cases action with
    | assignment target =>
      cases target_eq
      exact listed
    | effect _ _ _ => contradiction
  · exact fun listed => ⟨_, listed, rfl⟩

/-- When an assignment is a side effect. -/
theorem isSome_assignmentEffect?_iff :
    (procedure.assignmentEffect? host token).isSome = true ↔
      procedure.KeepsArgument token.lower ∨
        procedure.IsForeign token.lower ∧ token.lower ∈ host := by
  rw [assignmentEffect?, KeepsArgument]
  cases found : procedure.argument? token.lower with
  | some argument =>
    have noForeign : ¬(procedure.IsForeign token.lower ∧ token.lower ∈ host) := fun foreign => by
      have none_eq := foreign.1.noArgument
      rw [found] at none_eq
      contradiction
    have keeps_iff : (∃ other ∈ some argument, other.intent ≠ some "out" ∧
        other.intent ≠ some "inout") ↔
          ¬(argument.intent = some "out" ∨ argument.intent = some "inout") := by
      simp [not_or]
    rw [or_iff_left noForeign, keeps_iff]
    dsimp only
    split <;> rename_i leaves <;> simp [leaves]
  | none =>
    have foreign_iff : procedure.IsForeign token.lower ↔
        token.lower ∉ procedure.localNames ∧ token.lower ≠ procedure.resultName := by
      rw [mem_localNames]
      exact ⟨fun foreign => ⟨fun isLocal => foreign.undeclared isLocal.1, foreign.noResult⟩,
        fun ⟨notLocal, noResult⟩ => ⟨found, fun declared => notLocal ⟨declared, found⟩, noResult⟩⟩
    have condition_iff :
        (host.contains token.lower && !procedure.localNames.contains token.lower &&
        token.lower != procedure.resultName) = true ↔
          procedure.IsForeign token.lower ∧ token.lower ∈ host := by
      rw [foreign_iff]
      simp only [Bool.and_eq_true, List.contains_iff_mem, Bool.not_eq_true', bne_iff_ne,
        ← Bool.not_eq_true]
      exact and_assoc.trans and_comm
    rw [or_iff_right (by simp), ← condition_iff]
    dsimp only
    split <;> rename_i condition <;> simp only [condition, Option.isSome_some, Option.isSome_none]

theorem fst_assignmentEffect? {effect : Token × String}
    (reported : procedure.assignmentEffect? host token = some effect) : effect.1 = token := by
  rw [assignmentEffect?] at reported
  split at reported
  · split at reported
    · contradiction
    · rw [← Option.some.inj reported]
  · split at reported
    · rw [← Option.some.inj reported]
    · contradiction

/-- A side effect is that of an action, which it is told by. -/
theorem exists_action_of_mem_sideEffects {effect : Token × String}
    (reported : effect ∈ procedure.sideEffects host) :
    ∃ action ∈ procedure.actions, action.token = effect.1 ∧
      ∀ target, action = .assignment target →
        (procedure.assignmentEffect? host target).isSome = true := by
  rcases List.mem_append.mp reported with assigned | executed
  · obtain ⟨target, listed, effect_eq⟩ := List.mem_filterMap.mp assigned
    refine ⟨.assignment target, mem_assignments.mp listed,
      (fst_assignmentEffect? effect_eq).symm, fun other same => ?_⟩
    cases same
    rw [effect_eq]
    rfl
  · obtain ⟨⟨words, token, unit⟩, listed, effect_eq⟩ := List.mem_filterMap.mp executed
    obtain ⟨action, action_mem, action_eq⟩ := List.mem_filterMap.mp listed
    cases action with
    | assignment _ => contradiction
    | effect _ _ _ =>
      cases action_eq
      refine ⟨_, action_mem, ?_, fun other same => by contradiction⟩
      rw [statementEffect?] at effect_eq
      split at effect_eq
      · contradiction
      · cases effect_eq
        rfl

end Procedure

/-! ## Side effects of a source -/

namespace Outline

variable {lines : List String} {found found' : Procedure × Option ProgramUnit}
  {action action' : Statement.Action}

/-- No two procedures of a source share their name token. -/
theorem nodup_tokens (lines : List String) :
    ((ofTokenized (.ofLines lines)).procedures.map (·.1.token)).Nodup := by
  have whole := nodup_written lines
  have bound : written (ofTokenized (.ofLines lines)).ledgers =
      (ofTokenized (.ofLines lines)).ledgers.map (·.2.token) +
        (ofTokenized (.ofLines lines)).ledgers.bind fun entry =>
          ↑(entry.2.declarations.map (·.token) ++ entry.2.actions.map (·.token)) :=
    Multiset.bind_cons _ (fun entry : Home × Ledger => entry.2.token) fun entry =>
      ↑(entry.2.declarations.map (·.token) ++ entry.2.actions.map (·.token))
  rw [bound, ledgers_eq, Multiset.map_add, Multiset.map_coe, Multiset.map_coe, List.map_map,
    List.map_map] at whole
  exact Multiset.coe_nodup.mp
    (Multiset.nodup_add.mp (Multiset.nodup_add.mp whole).1).2.1

theorem token_mem_tokens (acts : action ∈ found.1.actions) :
    action.token ∈ (ScopeNode.procedure found.1).ledger.tokens :=
  List.mem_cons_of_mem _ (List.mem_append_right _ (List.mem_map_of_mem acts))

/-- An action is told by its place, and so is the procedure that it is one of. -/
theorem eq_of_start_eq (listed : found ∈ (ofTokenized (.ofLines lines)).procedures)
    (listed' : found' ∈ (ofTokenized (.ofLines lines)).procedures)
    (acts : action ∈ found.1.actions) (acts' : action' ∈ found'.1.actions)
    (same : action.token.start = action'.token.start) :
    found.1.token = found'.1.token ∧ action = action' := by
  have read {found : Procedure × Option ProgramUnit} {action : Statement.Action}
      (listed : found ∈ (ofTokenized (.ofLines lines)).procedures)
      (acts : action ∈ found.1.actions) :
      action.token ∈ (Tokenized.ofLines lines).statements.flatten :=
    Multiset.mem_of_le (written_ofTokenized_le lines) (Multiset.mem_bind.mpr
      ⟨_, ledger_mem_of_mem_procedures listed, token_mem_tokens acts⟩)
  have token_eq := Tokenized.eq_of_start_eq (read listed acts) (read listed' acts') same
  have entry := ledger_mem_of_mem_procedures listed
  have entry_eq := eq_of_nodup_bind (nodup_written lines) entry
    (ledger_mem_of_mem_procedures listed') (Multiset.mem_coe.mpr (token_mem_tokens acts))
    (by rw [token_eq]; exact Multiset.mem_coe.mpr (token_mem_tokens acts'))
  have ledger_eq := congrArg Prod.snd entry_eq
  refine ⟨congrArg Ledger.token ledger_eq, ?_⟩
  have distinct := (Multiset.nodup_bind.mp (nodup_written lines)).1 _ entry
  have actions_eq : found.1.actions = found'.1.actions := congrArg Ledger.actions ledger_eq
  rw [← actions_eq] at acts'
  refine List.inj_on_of_nodup_map ?_ acts acts' token_eq
  exact (List.nodup_append.mp (List.nodup_cons.mp (Multiset.coe_nodup.mp distinct)).2).2.1

end Outline

/-- Something is found at the place of a token. -/
def Finding.Reports (findings : List Finding) (token : Token) : Prop :=
  ∃ finding ∈ findings, finding.line = token.line ∧ finding.column = token.column

/-- What the rule on side effects says of one. -/
def Procedure.effectText (procedure : Procedure) (effect : String) : String :=
  let label := if procedure.isDeclaredPure then "Pure function" else "Function"
  s!"{label} '{procedure.name}' {effect}"

theorem Rule.mem_checkSideEffects {source : Source} {finding : Finding} :
    finding ∈ checkSideEffects source ↔
      ∃ procedure host, (procedure, host) ∈ source.outline.hosted ∧ procedure.kind = .function ∧
        ∃ effect ∈ procedure.sideEffects host,
          Finding.at' effect.1 (procedure.effectText effect.2) = finding := by
  rw [checkSideEffects, List.mem_flatMap]
  constructor
  · rintro ⟨⟨procedure, host⟩, visited, checked⟩
    dsimp only at checked
    split at checked
    · rename_i isFunction
      exact ⟨procedure, host, visited, isFunction, List.mem_map.mp checked⟩
    · exact absurd checked List.not_mem_nil
  · rintro ⟨procedure, host, visited, isFunction, reported⟩
    refine ⟨_, visited, ?_⟩
    dsimp only
    rw [if_pos isFunction]
    exact List.mem_map.mpr reported

/-- The rule reports an assignment of a function exactly when it is a side effect. -/
theorem Rule.reports_checkSideEffects_iff (path : String) {lines : List String}
    {procedure : Procedure} {host : List String} {target : Token}
    (visited : (procedure, host) ∈ (Outline.ofTokenized (.ofLines lines)).hosted)
    (isFunction : procedure.kind = .function) (assigned : target ∈ procedure.assignments) :
    Finding.Reports (Rule.checkSideEffects (.ofLines path lines)) target ↔
      (procedure.assignmentEffect? host target).isSome = true := by
  have acts := Procedure.mem_assignments.mp assigned
  have shown {visit : Procedure × List String}
      (visited : visit ∈ (Outline.ofTokenized (.ofLines lines)).hosted) :
      ∃ found ∈ (Outline.ofTokenized (.ofLines lines)).procedures, found.1 = visit.1 :=
    List.mem_map.mp ((Outline.map_hosted_sublist _).subset (List.mem_map_of_mem visited))
  have distinct : ((Outline.ofTokenized (.ofLines lines)).hosted.map (·.1.token)).Nodup := by
    have sublist := (Outline.map_hosted_sublist (.ofTokenized (.ofLines lines))).map
      Procedure.token
    rw [List.map_map, List.map_map] at sublist
    exact sublist.nodup (Outline.nodup_tokens lines)
  constructor
  · rintro ⟨finding, checked, line_eq, column_eq⟩
    obtain ⟨other, host', visited', -, effect, reported, rfl⟩ :=
      Rule.mem_checkSideEffects.mp checked
    obtain ⟨action, listed, token_eq, isEffect⟩ :=
      Procedure.exists_action_of_mem_sideEffects reported
    have place_eq : action.token.start = (Statement.Action.assignment target).token.start := by
      rw [token_eq]
      exact Prod.ext line_eq column_eq
    obtain ⟨found, found_mem, rfl⟩ := shown visited'
    obtain ⟨found', found_mem', rfl⟩ := shown visited
    obtain ⟨named, action_eq⟩ := Outline.eq_of_start_eq found_mem found_mem' listed acts place_eq
    obtain ⟨procedure_eq, rfl⟩ :=
      Prod.mk.inj (List.inj_on_of_nodup_map distinct visited' visited named)
    rw [← procedure_eq]
    exact isEffect target action_eq
  · intro isEffect
    obtain ⟨effect, effect_eq⟩ := Option.isSome_iff_exists.mp isEffect
    have reported : effect ∈ procedure.sideEffects host :=
      List.mem_append_left _ (List.mem_filterMap.mpr ⟨target, assigned, effect_eq⟩)
    have token_eq := Procedure.fst_assignmentEffect? effect_eq
    exact ⟨_, Rule.mem_checkSideEffects.mpr ⟨procedure, host, visited, isFunction, effect,
      reported, rfl⟩, congrArg Token.line token_eq, congrArg Token.column token_eq⟩

/-- In every source the rule on side effects reports an assignment of a function, at
whatever depth the function stands, exactly when the target is a dummy argument whose intent
is neither OUT nor INOUT, or when it is foreign to the function and the name of a variable
of the program unit around, or declared in a procedure around where it is no dummy argument.
When no procedure around has a dummy argument or a constant of the name, the latter is to say
that a procedure around has a variable of the name. -/
theorem reports_of_assignment (path : String) {lines : List String}
    {programUnit? : Option ProgramUnit} {chain : List Procedure} {procedure : Procedure}
    {target : Token}
    (placed : (Outline.ofTokenized (.ofLines lines)).Places programUnit? chain procedure)
    (isFunction : procedure.kind = .function) (assigned : target ∈ procedure.assignments) :
    let name := target.lower
    let reported := Finding.Reports (Rule.checkSideEffects (.ofLines path lines)) target
    (reported ↔
      procedure.KeepsArgument name ∨ procedure.IsForeign name ∧
        (name ∈ Outline.unitVariables programUnit? ∨
          ∃ outer ∈ chain, name ∈ outer.localNames)) ∧
    ((∀ outer ∈ chain, outer.argument? name = none ∧ name ∉ outer.specification.parameters) →
      (reported ↔
        procedure.KeepsArgument name ∨ procedure.IsForeign name ∧
          (name ∈ Outline.unitVariables programUnit? ∨
            ∃ outer ∈ chain, outer.HasVariable name))) := by
  intro name reported
  have exact_iff : reported ↔
      procedure.KeepsArgument name ∨ procedure.IsForeign name ∧
        (name ∈ Outline.unitVariables programUnit? ∨
          ∃ outer ∈ chain, name ∈ outer.localNames) := by
    rw [← List.mem_flatMap, ← List.mem_append]
    exact (Rule.reports_checkSideEffects_iff path placed.mem_hosted isFunction assigned).trans
      Procedure.isSome_assignmentEffect?_iff
  refine ⟨exact_iff, fun plain => exact_iff.trans ?_⟩
  have around : (∃ outer ∈ chain, name ∈ outer.localNames) ↔
      ∃ outer ∈ chain, outer.HasVariable name :=
    exists_congr fun outer => and_congr_right fun member =>
      Procedure.mem_localNames_iff_hasVariable (plain outer member).1 (plain outer member).2
  rw [around]

/-- An internal function assigns to a variable of the module and to one of the procedure
around it. -/
theorem reports_of_assignment_nested :
    let lines := ["module m", "integer :: total", "contains", "subroutine outer(x)",
      "integer :: x, count", "contains", "function f(a) result(r)", "integer, intent(in) :: a",
      "integer :: r", "total = a", "count = a", "r = a", "end function f",
      "end subroutine outer", "end module m"]
    let outline := Outline.ofTokenized (.ofLines lines)
    (outline.units.flatMap fun programUnit => programUnit.procedures.flatMap fun outer =>
        outer.children.flatMap fun procedure => procedure.assignments.map (·.lower)) =
        ["total", "count", "r"] ∧
      ∀ programUnit ∈ outline.units, ∀ outer ∈ programUnit.procedures,
        ∀ procedure ∈ outer.children, ∀ target ∈ procedure.assignments,
          (Finding.Reports (Rule.checkSideEffects (.ofLines "m.f90" lines)) target ↔
            target.lower ≠ "r") := by
  intro lines outline
  refine ⟨by decide +kernel, ?_⟩
  intro programUnit listed outer outer_mem procedure procedure_mem target assigned
  have placed : outline.Places (some programUnit) [outer] procedure :=
    .unit listed (.inside outer_mem (.root procedure_mem))
  have facts : ∀ programUnit ∈ outline.units, ∀ outer ∈ programUnit.procedures,
      ∀ procedure ∈ outer.children, ∀ target ∈ procedure.assignments,
        procedure.kind = .function ∧
        (∀ other ∈ [outer], other.argument? target.lower = none ∧
          target.lower ∉ other.specification.parameters) ∧
        ((procedure.KeepsArgument target.lower ∨ procedure.IsForeign target.lower ∧
          (target.lower ∈ Outline.unitVariables (some programUnit) ∨
            ∃ other ∈ [outer], other.HasVariable target.lower)) ↔ target.lower ≠ "r") := by
    decide +kernel
  obtain ⟨isFunction, plain, told⟩ :=
    facts programUnit listed outer outer_mem procedure procedure_mem target assigned
  exact ((reports_of_assignment "m.f90" placed isFunction assigned).2 plain).trans told

/-- An assignment to a dummy argument of the procedure around is not reported, and one to a
constant of it is. -/
theorem reports_of_assignment_host :
    let around (declaration target : String) := ["subroutine outer(x)", declaration, "contains",
      "function f() result(r)", "integer :: r", target ++ " = 1", "r = 1", "end function f",
      "end subroutine outer"]
    let dummy := around "integer, intent(inout) :: x" "x"
    let constant := around "integer, parameter :: k = 1" "k"
    (∃ outer ∈ (Outline.ofTokenized (.ofLines dummy)).external, ∃ procedure ∈ outer.children,
      ∃ target ∈ procedure.assignments, procedure.kind = .function ∧
        procedure.IsForeign target.lower ∧ outer.HasVariable target.lower) ∧
      Rule.checkSideEffects (.ofLines "f.f90" dummy) = [] ∧
      (∀ outer ∈ (Outline.ofTokenized (.ofLines constant)).external,
        ∀ procedure ∈ outer.children, ∀ target ∈ procedure.assignments,
          ¬procedure.KeepsArgument target.lower ∧
            ¬(procedure.IsForeign target.lower ∧ outer.HasVariable target.lower)) ∧
      Rule.checkSideEffects (.ofLines "f.f90" constant) =
        [⟨6, 1, "Function 'f' assigns to host variable 'k'"⟩] := by
  decide +kernel

end FortranStyle
