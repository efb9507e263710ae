import FortranStyle.Proofs.Declaring.Heading
import FortranStyle.Proofs.Ledger.Entry

/-!
# What a type declaration statement declares

In a program unit or procedure a type declaration statement declares its entities, each as it is
written and in their order, and nothing else; it opens and closes no block.  Before it is read as
a declaration it is found to be no assignment, no end of a block, no header and no construct.
-/

namespace FortranStyle

open Statement (IsTypeDeclaration Declares)

namespace Statement

/-! ## Statements that start with a type specification -/

/-- The words that start a type specification. -/
def typeWords : List String :=
  Vocabulary.intrinsicTypes ++ ["type", "class", "procedure"]

theorem inert_of_isOp {token : Token} {operator : String} (isOp : token.isOp operator = true)
    (other : operator ∉ ["(", "%", "=", "=>", ":"]) (rest : List Token) :
    Inert (token :: rest) := by
  simp only [List.mem_cons, List.not_mem_nil, or_false, not_or] at other
  constructor
  · rw [leadsToAssignment.eq_def]
    simp [Position.isOp_eq_false isOp, other]
  · simp [Position.isOp_eq_false isOp, other]

/-- Nothing in a type specification leads to an assignment. -/
theorem IsTypeSpec.inert {derived : List String} {first : Token} {more rest : List Token}
    (isSpec : IsTypeSpec derived (first :: more)) (later : Inert rest) : Inert (more ++ rest) := by
  have behind {bracket inner : List Token} (round : Bracket.IsRound bracket inner) :
      Inert (bracket ++ rest) := by
    have beyond_eq := round.beyond_append rest
    obtain ⟨opening, more, rfl, opens⟩ := round.exists_cons
    exact inert_bracket opens (beyond_eq.symm ▸ later)
  cases isSpec with
  | plain => exact later
  | selector _ _ round => exact behind round
  | size _ _ isStar _ => exact inert_of_isOp isStar (by decide) _
  | length _ _ isStar _ => exact inert_of_isOp isStar (by decide) _
  | double _ isSecond => exact inert_name (Bool.and_eq_true_iff.mp isSecond).1 _
  | named _ round => exact behind round

/-- A specification with one of several words is one with the others, or starts with that word. -/
theorem IsTypeSpec.named_or {derived : List String} {word : String} {spec : List Token}
    (isSpec : IsTypeSpec (derived ++ [word]) spec) :
    IsTypeSpec derived spec ∨ ∃ first more, spec = first :: more ∧ first.Reads word := by
  cases isSpec with
  | plain intrinsic single => exact .inl (.plain intrinsic single)
  | selector intrinsic single round => exact .inl (.selector intrinsic single round)
  | size intrinsic single isStar isNumber => exact .inl (.size intrinsic single isStar isNumber)
  | length intrinsic single isStar round => exact .inl (.length intrinsic single isStar round)
  | double isDouble isSecond => exact .inl (.double isDouble isSecond)
  | @named first bracket inner isDerived round =>
    obtain ⟨isName, listed⟩ := Bool.and_eq_true_iff.mp isDerived
    rcases List.mem_append.mp (List.contains_iff_mem.mp listed) with member | member
    · have isDerived := Bool.and_eq_true_iff.mpr ⟨isName, List.contains_iff_mem.mpr member⟩
      exact .inl (.named isDerived round)
    · exact .inr ⟨first, bracket, rfl, isName, List.mem_singleton.mp member⟩

namespace IsTypeDeclaration

variable {tokens : List Token} {attributes : List Attribute} {entities : List Entity}
  (form : IsTypeDeclaration tokens attributes entities)
include form

/-- A declaration statement starts with the word of a type, and it is no assignment. -/
theorem exists_cons : ∃ first rest word, tokens = first :: rest ∧ Inert rest ∧
    word ∈ typeWords ∧ first.Reads word ∧ isDeclaration (first :: rest) = true ∧
      (word = "type" → rest.head?.any (·.isOp "(") = true) := by
  cases form with
  | @intro spec list listing colons attributes entities isSpec isAttributes isColons _ =>
    have later : Inert (list ++ colons :: listing) := by
      cases isAttributes with
      | nothing => exact inert_of_isOp isColons (by decide) _
      | more isComma _ _ => exact inert_of_isOp isComma (by decide) _
    obtain ⟨first, more, rfl, word, reads, typed⟩ := isSpec.exists_cons
    have member : word ∈ typeWords := List.mem_append.mpr (typed.imp_right And.left)
    refine ⟨first, more ++ (list ++ colons :: listing), word, rfl, isSpec.inert later, member,
      reads, ?_⟩
    rw [isDeclaration, reads.isAmong_eq, reads.isAmong_eq]
    rcases typed with intrinsic | ⟨isDerived, opens⟩
    · refine ⟨by rw [List.contains_iff_mem.mpr intrinsic, Bool.true_or], ?_⟩
      rintro rfl
      exact absurd intrinsic (by decide)
    · have bracket : (more ++ (list ++ colons :: listing)).head?.any (·.isOp "(") = true := by
        cases more with
        | nil => contradiction
        | cons => exact opens
      refine ⟨?_, fun _ => bracket⟩
      rw [List.contains_iff_mem.mpr isDerived, bracket, Bool.and_self, Bool.or_true]

/-- A declaration statement is no header. -/
theorem header?_eq_none : header? tokens = none := by
  cases form with
  | @intro spec list listing colons attributes entities isSpec isAttributes isColons _ =>
    have either : IsTypeSpec (["type", "class"] ++ ["procedure"]) spec := isSpec
    rcases either.named_or with isSpec | ⟨first, more, rfl, reads⟩
    · refine IsTyped.header?_eq_none ?_
      cases isAttributes with
      | nothing => exact .marked isSpec (.inr isColons)
      | more isComma _ _ => exact .marked isSpec (.inl isComma)
    · apply Statement.header?_eq_none
      simp [headerMarks?, procedureKind?, isDerivedTypeWord, reads.isWord_eq, reads.isAmong_eq,
        Vocabulary.procedureMarks, Vocabulary.intrinsicTypes]

/-- A declaration statement opens and closes nothing, and it is recorded as a declaration. -/
theorem quiet : ∃ first rest word, tokens = first :: rest ∧ first.Reads word ∧ word ∈ typeWords ∧
    Quiet (first :: rest) ∧ construct? (first :: rest) = none ∧
      isDeclaration (first :: rest) = true := by
  have noProcedure := form.header?_eq_none
  obtain ⟨first, rest, word, rfl, inert, member, reads, declares, bracket⟩ := form.exists_cons
  have quietWord : ∀ word ∈ typeWords, word ∉ endWords ∧
      word ∉ ["program", "module", "submodule", "abstract", "interface"] := by
    decide
  obtain ⟨noEnd, apart⟩ := quietWord word member
  simp only [List.mem_cons, List.not_mem_nil, or_false, not_or] at apart
  obtain ⟨noProgram, noModule, noSubmodule, noAbstract, noInterface⟩ := apart
  refine ⟨first, rest, word, rfl, reads, member, ?_, ?_, declares⟩
  · constructor
    case toPlain => exact plain reads noEnd inert
    case noUnit => simp [unitHeading?, reads.isWord_eq, noProgram, noModule, noSubmodule]
    case noProcedure => exact noProcedure
    case noInterface => simp [interfaceHeading?, reads.isWord_eq, noAbstract, noInterface]
    case noType =>
      cases rest with
      | nil => rfl
      | cons second more =>
        by_cases isType : word = "type"
        · have opens : second.isOp "(" = true := bracket isType
          simp [typeHeading?, opens]
        · simp [typeHeading?, reads.isWord_eq, isType]
  · dsimp only [construct?]
    rw [reads.word_eq]
    split
    case h_12 => rfl
    all_goals exact absurd member (by decide)

end IsTypeDeclaration

end Statement

/-! ## What is recorded -/

namespace Ledger

/-- Only whether a declaration is automatic is decided when it is recorded. -/
theorem exists_foldl_declare {attributes : List Statement.Attribute}
    {entities : List Statement.Entity} {declarations : List Declaration}
    (each : List.Forall₂ (Declares attributes) entities declarations) (constants : List String)
    (ledger : Ledger) : ∃ declared, List.Forall₂ (Declares attributes) entities declared ∧
      declarations.foldl (Ledger.declare constants) ledger =
        { ledger with declarations := ledger.declarations ++ declared } := by
  induction each generalizing ledger with
  | nil => exact ⟨[], .nil, by simp⟩
  | @cons entity declaration entities declarations declares _ ih =>
    obtain ⟨declared, each, ledger_eq⟩ := ih (ledger.declare constants declaration)
    refine ⟨ledger.judge constants declaration :: declared, .cons ?_ each, ?_⟩
    · exact ⟨declares.token_eq, declares.name_eq, declares.dimension_eq, declares.initializer_eq,
        declares.isInitialized_iff, declares.has_iff, declares.intent_eq⟩
    · rw [List.foldl_cons, ledger_eq, Ledger.declare, List.append_assoc, List.singleton_append]

end Ledger

namespace ScanState

section Declaration

variable {state : ScanState} {scope : Scope} {outer : List Frame} {statement : List Token}
  {attributes : List Statement.Attribute} {entities : List Statement.Entity}

/-- In a program unit or procedure a declaration statement is recorded as a declaration. -/
theorem step_eq_recordDeclaration (frames_eq : state.frames = .scope scope :: outer)
    (form : IsTypeDeclaration statement attributes entities) :
    ∃ first, statement.head? = some first ∧
      state.step statement =
        (state.recordDepth first state.depth).recordDeclaration statement := by
  obtain ⟨first, rest, word, rfl, reads, member, quiet, noConstruct, isDeclaration⟩ := form.quiet
  have otherWord : ∀ word ∈ Statement.typeWords, word ∉ ["contains", "use", "implicit"] := by
    decide
  have other := otherWord word member
  simp only [List.mem_cons, List.not_mem_nil, or_false, not_or] at other
  obtain ⟨noContains, noUse, noImplicit⟩ := other
  have inside : state.innermost.all (·.isOrdinary) = true := by
    rw [innermost, frames_eq]
    cases node_eq : scope.node <;> simp [Frame.kind, node_eq, ScopeNode.kind, BlockKind.isOrdinary]
  have noDivider : state.innermost.any (Statement.isDivider · (first :: rest)) = false := by
    rw [innermost, frames_eq]
    cases node_eq : scope.node <;>
      simp [Frame.kind, node_eq, ScopeNode.kind, Statement.isDivider, reads.word_eq, noContains]
  have noMark : state.mark? (first :: rest) = none := by
    rw [mark?, Statement.mark?, quiet.unlabelled]
    simp [quiet.noAssignment, quiet.noCloser, ← innermost_eq, opened?_of_isOrdinary inside,
      quiet.noUnit, quiet.noProcedure, quiet.noInterface, quiet.noType, noConstruct]
  have recorded : state.records (first :: rest) = true := by
    simp [records, quiet.unlabelled, quiet.noAssignment, noMark, noDivider, inside]
  refine ⟨first, rfl, (step_of_records quiet.unlabelled recorded).trans ?_⟩
  simp [recordPlain, reads.isWord_eq, noUse, noImplicit, isDeclaration]

theorem recordDeclaration_of_frames_eq (frames_eq : state.frames = .scope scope :: outer)
    (tokens : List Token) : ∃ constants,
    state.recordDeclaration tokens =
      { state with
        frames :=
          .scope
            { scope with
              node := (Statement.typeDeclaration tokens).declarations.foldl
                (ScopeNode.declare constants) scope.node } :: outer } := by
  cases state with
  | mk frames =>
    obtain rfl : frames = .scope scope :: outer := frames_eq
    exact ⟨_, rfl⟩

/-- A type declaration statement in a program unit or procedure declares its entities and
nothing else. -/
theorem step_of_isTypeDeclaration (frames_eq : state.frames = .scope scope :: outer)
    (form : IsTypeDeclaration statement attributes entities) :
    ∃ first node declared,
      statement.head? = some first ∧
      state.step statement =
        { state with
          frames := .scope { scope with node } :: outer
          depths := (first.line, state.depth) :: state.depths } ∧
      scope.node.Steady node ∧
      node.ledger =
        { scope.node.ledger with
          declarations := scope.node.ledger.declarations ++ declared } ∧
      List.Forall₂ (Declares attributes) entities declared := by
  obtain ⟨first, first_eq, step_eq⟩ := step_eq_recordDeclaration frames_eq form
  have noted_eq : (state.recordDepth first state.depth).frames = .scope scope :: outer := frames_eq
  obtain ⟨constants, recorded_eq⟩ := recordDeclaration_of_frames_eq noted_eq statement
  obtain ⟨declared, each, ledger_eq⟩ :=
    Ledger.exists_foldl_declare form.declarations_eq constants scope.node.ledger
  exact ⟨first, _, declared, first_eq, step_eq.trans recorded_eq,
    ScopeNode.steady_declare constants _ scope.node,
    (ScopeNode.ledger_foldl_declare constants _ scope.node).trans ledger_eq, each⟩

end Declaration

/-- Its own dimension counts for one of two entities, and that of the attribute for the other. -/
theorem step_of_isTypeDeclaration_module :
    let bound : Token := ⟨.number, "3", 1, 20, 1, 20⟩
    let own : Token := ⟨.number, "2", 1, 31, 1, 31⟩
    let scope : Scope :=
      ⟨bound, .programUnit (.begin .module ⟨.identifier, "m", 1, 8, 1, 8⟩ 1), true, []⟩
    let state := { initial with frames := [.scope scope] }
    ∃ node declared,
      ((Tokenized.ofLines ["integer, dimension(3) :: A, b(2) = 0"]).statements.map
        (state.step ·)).map (·.frames) = [[.scope { scope with node }]] ∧
      node.ledger.declarations = declared ∧
      declared.map (fun found => (found.name, found.dimension, found.isInitialized)) =
        [("a", [bound], false), ("b", [own], true)] := by
  intro bound own scope state
  let opening (column : Nat) : Token := ⟨.operator, "(", 1, column, 1, column⟩
  let closing (column : Nat) : Token := ⟨.operator, ")", 1, column, 1, column⟩
  let comma (column : Nat) : Token := ⟨.operator, ",", 1, column, 1, column⟩
  let integer : Token := ⟨.keyword, "integer", 1, 1, 1, 7⟩
  let dimension : Token := ⟨.keyword, "dimension", 1, 10, 1, 18⟩
  let colons : Token := ⟨.operator, "::", 1, 23, 1, 24⟩
  let first : Token := ⟨.identifier, "A", 1, 26, 1, 26⟩
  let second : Token := ⟨.identifier, "b", 1, 29, 1, 29⟩
  let sign : Token := ⟨.operator, "=", 1, 34, 1, 34⟩
  let value : Token := ⟨.number, "0", 1, 36, 1, 36⟩
  let statement : List Token :=
    [integer] ++ ((comma 8 :: ((dimension :: opening 19 :: ([bound] ++ [closing 21])) ++ [])) ++
      colons :: ((first :: ([] ++ ([] ++ []))) ++ comma 27 ::
        (second :: (opening 30 :: ([own] ++ [closing 32]) ++ ([] ++ (sign :: [value]))))))
  have statements_eq : (Tokenized.ofLines ["integer, dimension(3) :: A, b(2) = 0"]).statements =
      [statement] := by
    decide +kernel
  have form : IsTypeDeclaration statement [⟨dimension.lower, some [bound]⟩]
      [⟨first, none, none⟩, ⟨second, some [own], some [value]⟩] := by
    have shared : Bracket.IsRound (opening 19 :: ([bound] ++ [closing 21])) [bound] :=
      .intro rfl (by decide +kernel) rfl
    have owned : Bracket.IsRound (opening 30 :: ([own] ++ [closing 32])) [own] :=
      .intro rfl (by decide +kernel) rfl
    have isItem : Bracket.IsItem [value] := ⟨List.cons_ne_nil _ _, by decide +kernel, rfl⟩
    exact .intro (.plain (by decide +kernel) (by decide +kernel))
      (.more rfl (.called rfl shared) .nothing) rfl
      (.more (.intro rfl .nothing .nothing .nothing) rfl
        (.one (.intro rfl (.bounds owned) .nothing (.value (.inl rfl) isItem))))
  have frames_eq : state.frames = [.scope scope] := rfl
  obtain ⟨_, node, declared, -, step_eq, -, ledger_eq, each⟩ :=
    step_of_isTypeDeclaration frames_eq form
  refine ⟨node, declared, ?_, congrArg Ledger.declarations ledger_eq, ?_⟩
  · rw [statements_eq, List.map_singleton, List.map_singleton, step_eq]
  · obtain ⟨lower_eq, first_eq, second_eq⟩ :
        dimension.lower = "dimension" ∧ first.lower = "a" ∧ second.lower = "b" := by
      decide +kernel
    cases each with
    | cons plain others =>
    cases others with
    | cons initialized none =>
    cases none
    have noValue := mt plain.isInitialized_iff.mp (by simp)
    have hasValue := initialized.isInitialized_iff.mpr (by simp)
    simp [plain.name_eq, plain.dimension_eq, initialized.name_eq, initialized.dimension_eq,
      noValue, hasValue, Statement.given?, lower_eq, first_eq, second_eq]

end ScanState

end FortranStyle
