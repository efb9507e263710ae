import FortranStyle.Proofs.Lists
import FortranStyle.Proofs.Locality.Advance
import FortranStyle.Rule.Structure

/-!
# Where names come from

What a procedure declares does not show in the program unit around it.  Every name
that a program unit defines or makes public, its procedures apart, goes back to a
statement whose innermost scope is that unit, with one exception: the names of an
ENUMERATOR statement inside a procedure go to the program unit as well.  So the
rules on visibility blame a module for no other names.
-/

namespace FortranStyle

open Statement (Introduces Enumerates)

/-! ## Inside procedures -/

namespace Frames

variable {frames : List Frame} {token : Token}

theorem not_inUnit (inside : (procedure? frames).isSome = true) : ¬InUnit frames token := by
  rintro ⟨scope, found, node, node_eq, -⟩
  obtain ⟨opener, _, inSpecification, nested⟩ := scope
  cases node_eq
  rw [procedure?, Option.mem_def.mp found] at inside
  contradiction

/-- The innermost program unit is the innermost scope unless that is a procedure. -/
theorem UnderUnit.inUnit_or (under : UnderUnit frames token) :
    InUnit frames token ∨ (procedure? frames).isSome = true := by
  induction frames with
  | nil =>
    obtain ⟨node, found, -⟩ := under
    contradiction
  | cons frame rest ih =>
    cases frame with
    | scope scope =>
      obtain ⟨opener, node, inSpecification, nested⟩ := scope
      cases node with
      | programUnit node =>
        obtain ⟨found, found_eq, token_eq⟩ := under
        cases found_eq
        exact .inl ⟨_, rfl, node, rfl, token_eq⟩
      | procedure node => exact .inr rfl
    | interface _ _ => exact ih under
    | derivedType _ _ => exact ih under
    | construct _ _ => exact ih under

end Frames

namespace ScanState

/-- A statement inside a procedure leaves what program units hold as it is, and at
most starts one more; the names of an enumeration apart. -/
theorem isPrefix_held_step (state : ScanState) {statement : List Token}
    (inside : (Frames.procedure? state.frames).isSome = true)
    (plain : ¬state.IsEnumerating (Statement.unlabelled statement)) :
    state.held <+: (state.step statement).held := by
  obtain ⟨changed, opened, held_eq, changes, -⟩ := state.advances_step statement
  have same : state.held = changed := by
    rw [← List.forall₂_eq_eq_eq]
    refine changes.imp fun before after change => ?_
    rcases change with (same | ⟨inUnit, -⟩) | ⟨enumerating, -⟩
    · exact same.symm
    · exact absurd inUnit (Frames.not_inUnit inside)
    · exact absurd enumerating plain
  rw [held_eq, ← same]
  exact List.prefix_append ..

theorem Changes.token_eq {state : ScanState} {tokens : List Token} {before after : ProgramUnit}
    (change : state.Changes tokens before after) : before.token = after.token := by
  rcases change with (rfl | ⟨-, token_eq, -⟩) | ⟨-, rfl | ⟨-, token_eq, -⟩⟩
  · rfl
  · exact token_eq.symm
  · rfl
  · exact token_eq.symm

/-! ## Runs -/

/-- Some statement is as told where it stands. -/
def Somewhere (statements : List (List Token)) (P : ScanState → List Token → Prop) : Prop :=
  ∃ before statement after, statements = before ++ statement :: after ∧
    P (initial.run before) (Statement.unlabelled statement)

theorem Somewhere.append {statements : List (List Token)} {P : ScanState → List Token → Prop}
    (found : Somewhere statements P) (more : List (List Token)) :
    Somewhere (statements ++ more) P := by
  obtain ⟨before, statement, after, rfl, holds⟩ := found
  exact ⟨before, statement, after ++ more, by simp, holds⟩

/-- Some statement introduces a name in a program unit, which is its innermost
scope. -/
def Introduced (statements : List (List Token)) (token : Token) (name : String) : Prop :=
  Somewhere statements fun state tokens =>
    Frames.InUnit state.frames token ∧ Introduces tokens name

/-- Some ENUMERATOR statement inside a procedure has a name, and the program unit is
the innermost one around it. -/
def Enumerated (statements : List (List Token)) (token : Token) (name : String) : Prop :=
  Somewhere statements fun state tokens =>
    (Frames.procedure? state.frames).isSome = true ∧ Frames.UnderUnit state.frames token ∧
      state.IsEnumerating tokens ∧ Enumerates tokens name

/-- The names that program units hold go back to statements. -/
theorem traced_run (statements : List (List Token)) :
    ∀ programUnit ∈ (initial.run statements).held, ∀ name ∈ programUnit.ownNames,
      Introduced statements programUnit.token name ∨
        Enumerated statements programUnit.token name := by
  induction statements using List.reverseRecOn with
  | nil => exact fun programUnit member => absurd member List.not_mem_nil
  | append_singleton before statement ih =>
    have run_eq : initial.run (before ++ [statement]) = (initial.run before).step statement :=
      List.foldl_append
    rw [run_eq]
    intro programUnit member name listed
    obtain ⟨changed, opened, held_eq, changes, fresh, -⟩ :=
      (initial.run before).advances_step statement
    rw [held_eq] at member
    rcases List.mem_append.mp member with member | member
    · obtain ⟨earlier, started, change⟩ := exists_rel_of_mem changes member
      have old (token_eq : programUnit.token = earlier.token) (kept : name ∈ earlier.ownNames) :
          Introduced (before ++ [statement]) programUnit.token name ∨
            Enumerated (before ++ [statement]) programUnit.token name := by
        rw [token_eq]
        exact (ih earlier started name kept).imp (·.append _) (·.append _)
      rcases change with (same | ⟨inUnit, token_eq, gains⟩) |
        ⟨enumerating, same | ⟨underUnit, token_eq, gains⟩⟩
      · subst same
        exact old rfl listed
      · rcases gains name listed with kept | introduces
        · exact old token_eq kept
        · rw [token_eq]
          exact .inl ⟨before, statement, [], rfl, inUnit, introduces⟩
      · subst same
        exact old rfl listed
      · rcases gains name listed with kept | enumerates
        · exact old token_eq kept
        · rw [token_eq]
          rcases underUnit.inUnit_or with inUnit | inside
          · exact .inl ⟨before, statement, [], rfl, inUnit, .enumerator enumerates⟩
          · exact .inr ⟨before, statement, [], rfl, inside, underUnit, enumerating, enumerates⟩
    · rw [fresh programUnit member] at listed
      exact absurd listed List.not_mem_nil

/-- The names of program units stand in the statements, in order. -/
theorem sublist_tokens_held (statements : List (List Token)) :
    ((initial.run statements).held.map (·.token)).Sublist statements.flatten := by
  induction statements using List.reverseRecOn with
  | nil => exact .slnil
  | append_singleton before statement ih =>
    have run_eq : initial.run (before ++ [statement]) = (initial.run before).step statement :=
      List.foldl_append
    obtain ⟨changed, opened, held_eq, changes, -, named⟩ :=
      (initial.run before).advances_step statement
    have tokens_eq : (initial.run before).held.map (·.token) = changed.map (·.token) := by
      rw [← List.forall₂_eq_eq_eq, List.forall₂_map_left_iff, List.forall₂_map_right_iff]
      exact changes.imp fun _ _ => Changes.token_eq
    rw [run_eq, held_eq, List.map_append, ← tokens_eq, List.flatten_append, List.flatten_singleton]
    exact ih.append (named.trans (Statement.unlabelled_sublist statement))

theorem frames_closeAll (state : ScanState) (lastLine : Nat) :
    (state.closeAll lastLine state.depth).frames = [] := by
  have popped := Event.leads_popped .neverClosed state.blocks []
  rw [List.append_nil] at popped
  exact List.map_eq_nil_iff.mp (popped.unique (state.follows_closeAll lastLine).leads)

end ScanState

/-! ## Sources -/

namespace Locality

open ScanState (Introduced Enumerated)

/-- The program units of a source are those that its statements start. -/
theorem faces_eq (source : Tokenized) :
    (Outline.ofTokenized source).units.map (·.face []) =
      (ScanState.initial.run source.statements).held := by
  have closed := ScanState.held_closeAll (ScanState.initial.run source.statements)
    (max source.lines.length 1) (ScanState.initial.run source.statements).depth
  rw [ScanState.held, ScanState.frames_closeAll, Frames.held, List.append_nil] at closed
  exact closed

/-- Where a name of a program unit may come from: it is one of its procedures, a
statement introduces it there, or it is enumerated inside a procedure. -/
def Vouched (source : Tokenized) (programUnit : ProgramUnit) (name : String) : Prop :=
  name ∈ programUnit.procedures.map (·.lowerName) ∨
    Introduced source.statements programUnit.token name ∨
    Enumerated source.statements programUnit.token name

section Names

variable {source : Tokenized} {programUnit : ProgramUnit} {name : String}

theorem vouched_of_mem_ownNames (started : programUnit ∈ (Outline.ofTokenized source).units)
    (listed : name ∈ programUnit.ownNames) : Vouched source programUnit name := by
  have face_mem : programUnit.face [] ∈ (ScanState.initial.run source.statements).held :=
    faces_eq source ▸ List.mem_map_of_mem started
  exact .inr (ScanState.traced_run source.statements _ face_mem name
    (ProgramUnit.mem_ownNames_face.mpr (.inl listed)))

theorem vouched_of_mem_definedNames (started : programUnit ∈ (Outline.ofTokenized source).units)
    (listed : name ∈ programUnit.definedNames) : Vouched source programUnit name := by
  have split : name ∈ programUnit.procedures.map (·.lowerName) ∨ name ∈ programUnit.ownNames := by
    simp only [ProgramUnit.definedNames, ProgramUnit.ownNames, List.mem_append] at listed ⊢
    tauto
  exact split.elim .inl (vouched_of_mem_ownNames started)

theorem vouched_of_mem_publicSymbols (started : programUnit ∈ (Outline.ofTokenized source).units)
    (listed : name ∈ programUnit.publicSymbols) : Vouched source programUnit name := by
  rcases List.mem_append.mp listed with listed | listed
  · exact vouched_of_mem_definedNames started (List.mem_filter.mp listed).1
  · exact vouched_of_mem_ownNames started (List.mem_append_right _ listed)

end Names

/-! ## Blame -/

/-- The names that a finding blames a module for. -/
inductive Blames (options : Options) (module : ProgramUnit) : Finding → List String → Prop
  | exports (place : Token) (names : List String) :
      Blames options module
        (.at' place
          (s!"Module '{module.name}' is not PRIVATE by default and implicitly exports " ++
          Finding.nameList names 5)) names
  | nothingPublic (place : Token) :
      Blames options module
        (.at' place s!"Module '{module.name}' is PRIVATE by default but makes nothing PUBLIC") []
  | undefined (place : Token) (name : String) :
      Blames options module
        (.at' place s!"PUBLIC name '{name}' is not defined in module '{module.name}'") [name]
  | surplus (place : Token) (name : String) :
      Blames options module
        (.at' place (s!"Setup module '{module.name}' exposes '{name}'; only " ++
          ", ".intercalate (options.setupProcedures.map Text.lower) ++ " may be public")) [name]
  | missing {name : String} (expected : name ∈ options.setupProcedures.map Text.lower) :
      Blames options module
        (.at' module.token
          s!"Setup module '{module.name}' does not expose a procedure named '{name}'") []

section Findings

variable {options : Options} {module : ProgramUnit} {finding : Finding}

theorem blames_of_mem_checkDefaultAccess (found : finding ∈ Rule.checkDefaultAccess module) :
    ∃ names, Blames options module finding names ∧
      ∀ name ∈ names, name ∈ module.publicSymbols := by
  simp only [Rule.checkDefaultAccess] at found
  split_ifs at found with access implicit hidden
  · contradiction
  · rw [List.mem_singleton.mp found]
    refine ⟨_, .exports _ _, fun name listed => ?_⟩
    exact (List.mem_filter.mp (Text.mem_sortedSet_iff.mp listed)).1
  · rw [List.mem_singleton.mp found]
    exact ⟨[], .nothingPublic _, by simp⟩
  · contradiction

theorem blames_of_mem_checkListedNames (found : finding ∈ Rule.checkListedNames module) :
    ∃ names, Blames options module finding names ∧
      ∀ name ∈ names, name ∈ module.publicSymbols := by
  rw [Rule.checkListedNames] at found
  split at found
  · contradiction
  · obtain ⟨⟨name, token⟩, listed, rfl⟩ := List.mem_map.mp found
    refine ⟨[name], .undefined token name, fun other member => ?_⟩
    rw [List.mem_singleton.mp member]
    exact List.mem_append_right _ (List.mem_map_of_mem (List.mem_filter.mp listed).1)

theorem blames_of_mem_checkSetupModule (found : finding ∈ Rule.checkSetupModule options module) :
    ∃ names, Blames options module finding names ∧
      ∀ name ∈ names, name ∈ module.publicSymbols := by
  rcases List.mem_append.mp found with found | found
  · obtain ⟨name, listed, rfl⟩ := List.mem_map.mp found
    refine ⟨[name], .surplus _ name, fun other member => ?_⟩
    rw [List.mem_singleton.mp member]
    exact (List.mem_filter.mp (Text.mem_sortedSet_iff.mp listed)).1
  · obtain ⟨name, listed, rfl⟩ := List.mem_map.mp found
    exact ⟨[], .missing (List.mem_filter.mp listed).1, by simp⟩

end Findings

/-- The rules on visibility blame the modules of a source, and for no other names
than they make public or define. -/
theorem blames_of_mem_check {source : Source} {options : Options} {finding : Finding}
    (found : finding ∈ Rule.checkVisibility source ++ Rule.checkSetup source options) :
    ∃ module ∈ source.outline.modules, ∃ names,
      Blames options module finding names ∧ ∀ name ∈ names, name ∈ module.publicSymbols := by
  rcases List.mem_append.mp found with found | found
  · obtain ⟨module, listed, found⟩ := List.mem_flatMap.mp found
    rcases List.mem_append.mp found with found | found
    · exact ⟨module, listed, blames_of_mem_checkDefaultAccess found⟩
    · exact ⟨module, listed, blames_of_mem_checkListedNames found⟩
  · obtain ⟨module, listed, found⟩ := List.mem_flatMap.mp found
    exact ⟨module, (List.mem_filter.mp listed).1, blames_of_mem_checkSetupModule found⟩

/-- The program units of a source have different tokens as their names. -/
theorem nodup_tokens (lines : List String) :
    ((Outline.ofTokenized (.ofLines lines)).units.map (·.token)).Nodup := by
  have listed := ScanState.sublist_tokens_held (Tokenized.ofLines lines).statements
  rw [← faces_eq, List.map_map] at listed
  have distinct : (Tokenized.ofLines lines).statements.flatten.Nodup :=
    (Tokenized.pairwise_start_ne lines).imp fun different same =>
      different (congrArg Token.start same)
  exact listed.nodup distinct

/-- Inside a procedure, statements other than those that list enumerators leave what
the program units hold as it is, and at most start one more.  So every name that a
program unit of a source defines, imports or makes public is one of its procedures,
comes from its USE statements, goes back to a statement whose innermost scope is the
unit, or is an enumerator of a procedure; and the rules on visibility blame a module
for no other names.  The tokens that name the program units tell these apart. -/
theorem frame_and_trace (path : String) (lines : List String) (options : Options) :
    let source := Source.ofLines path lines
    (∀ (state : ScanState) (statement : List Token),
      (Frames.procedure? state.frames).isSome = true →
      ¬state.IsEnumerating (Statement.unlabelled statement) →
      state.held <+: (state.step statement).held) ∧
    (source.outline.units.map (·.token)).Nodup ∧
    source.outline.units.map (·.face []) =
      (ScanState.initial.run source.tokenized.statements).held ∧
    (∀ programUnit ∈ source.outline.units,
      (∀ name ∈ programUnit.symbols, Vouched source.tokenized programUnit name ∨
        name ∈ programUnit.specification.uses.flatMap fun item => item.only.getD []) ∧
      ∀ name ∈ programUnit.publicSymbols, Vouched source.tokenized programUnit name) ∧
    ∀ finding ∈ Rule.checkVisibility source ++ Rule.checkSetup source options,
      ∃ module ∈ source.outline.modules, ∃ names, Blames options module finding names ∧
        ∀ name ∈ names, Vouched source.tokenized module name := by
  refine ⟨fun state statement => state.isPrefix_held_step, nodup_tokens lines, faces_eq _,
    fun programUnit started => ⟨fun name listed => ?_,
      fun name => vouched_of_mem_publicSymbols started⟩, fun finding found => ?_⟩
  · exact (List.mem_append.mp listed).imp_left (vouched_of_mem_definedNames started)
  · obtain ⟨module, listed, names, blames, exported⟩ := blames_of_mem_check found
    exact ⟨module, listed, names, blames, fun name member =>
      vouched_of_mem_publicSymbols (List.mem_filter.mp listed).1 (exported name member)⟩

/-- A declaration inside a procedure leaves the names of the module as they are, though it is
marked PUBLIC. -/
theorem frame_and_trace_declaration :
    let statements := (Tokenized.ofLines ["module m", "contains", "subroutine s",
      "integer, public :: red"]).statements
    let state := ScanState.initial.run (statements.take 3)
    let statement := (statements.drop 3).headD []
    (Frames.procedure? state.frames).isSome = true ∧
      ¬state.IsEnumerating (Statement.unlabelled statement) ∧
      state.held <+: (state.step statement).held := by
  intro statements state statement
  have inside : (Frames.procedure? state.frames).isSome = true := by decide +kernel
  have plain : ¬state.IsEnumerating (Statement.unlabelled statement) := by
    unfold ScanState.IsEnumerating
    decide +kernel
  exact ⟨inside, plain,
    (frame_and_trace "m.f90" [] .default).1 state statement inside plain⟩

/-- The names of an enumeration inside a procedure become names of the module, and
the module is taken to export them. -/
theorem not_isPrefix_held_enumerator :
    let lines := ["module m", "public :: s", "contains", "subroutine s", "enum, bind(c)",
      "enumerator :: red", "end enum", "end subroutine", "end module"]
    let statements := (Tokenized.ofLines lines).statements
    let state := ScanState.initial.run (statements.take 5)
    ((Frames.procedure? state.frames).isSome = true ∧
        ¬state.held <+: (state.step ((statements.drop 5).headD [])).held) ∧
      ((Source.ofLines "m.f90" lines).outline.modules.map fun module =>
        module.publicSymbols.filter (!module.isListedPublic ·)) = [["red"]] := by
  intro lines statements state
  refine ⟨⟨by decide +kernel, fun same => ?_⟩, by decide +kernel⟩
  have names : state.held.map (·.enumerators) <+:
      (state.step ((statements.drop 5).headD [])).held.map (·.enumerators) :=
    same.map (·.enumerators)
  revert names
  decide +kernel

end Locality

end FortranStyle
