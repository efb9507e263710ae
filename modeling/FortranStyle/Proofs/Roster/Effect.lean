import FortranStyle.Proofs.Nesting.Account
import FortranStyle.Proofs.Rendering.Clauses
import FortranStyle.Proofs.Roster.Deed
import FortranStyle.Proofs.Roster.Steady
import FortranStyle.Proofs.Roster.UseStatement

/-!
# The effect of a statement

When nothing is said of what statements record, few effects are left: a statement may
end the specification part of the innermost scope, record a USE, close blocks or open
one.  Which statements end a specification part is decided by their shape and by the
block they stand in.
-/

namespace FortranStyle

open Statement (unlabelled assignmentTarget? closer? isDivider unitHeading? header?
  isDeclaration)

/-! ## Statements for the specification part -/

/-- Whether a statement is known to belong in a specification part. -/
def Statement.isSpecification (tokens : List Token) : Bool :=
  isDeclaration tokens || tokens.head?.any (·.isAmong Vocabulary.specificationWords)

namespace ScanState

/-- A statement ends the specification part of the innermost scope.  Statements
directly in a derived type, an enumeration or an interface block belong to that block
and end nothing, assignments apart. -/
inductive EndsSpecification (state : ScanState) (statement : List Token) : Prop
  /-- It is an assignment. -/
  | assignment (target : (assignmentTarget? (unlabelled statement)).isSome = true)
  /-- It opens a construct other than ENUM. -/
  | construct {opener : Token} {kind : ConstructKind} {name : String}
      (opens : state.mark? statement = some (.opens ⟨opener, .construct kind, name⟩))
      (executable : kind ≠ .enumeration)
  /-- It is CONTAINS of the scope itself. -/
  | contains (isContains : (unlabelled statement).head?.any (·.isWord "contains") = true)
      (direct : state.innermost.any (·.isScope) = true)
  /-- It opens, closes and divides nothing and is not known. -/
  | unknown (written : unlabelled statement ≠ [])
      (inside : state.innermost.all (·.isOrdinary) = true)
      (noMark : state.mark? statement = none)
      (noDivider : state.innermost.any (isDivider · (unlabelled statement)) = false)
      (unknown : Statement.isSpecification (unlabelled statement) = false)

/-- The USE statement that a statement is, when it names a module and stands directly
in no derived type, enumeration or interface block. -/
def use? (state : ScanState) (statement : List Token) : Option Use :=
  let tokens := unlabelled statement
  if tokens.head?.any (·.isWord "use") && (assignmentTarget? tokens).isNone &&
      state.innermost.all (·.isOrdinary) then
    Use.ofStatement? tokens
  else
    none

/-- A statement is a USE statement when it starts with USE, names a module and is no
assignment, and stands directly in no derived type, enumeration or interface block. -/
theorem use?_eq_some_iff {state : ScanState} {statement : List Token} {found : Use} :
    state.use? statement = some found ↔
      (unlabelled statement).head?.any (·.isWord "use") = true ∧
        Use.IsUse (unlabelled statement) found ∧
        assignmentTarget? (unlabelled statement) = none ∧
        state.innermost.all (·.isOrdinary) = true := by
  rw [← Use.ofStatement?_eq_some_iff]
  dsimp only [use?]
  split
  · rename_i condition
    simp only [Bool.and_eq_true, Option.isNone_iff_eq_none] at condition
    obtain ⟨⟨isUse, noTarget⟩, inside⟩ := condition
    simp [isUse, noTarget, inside]
  · rename_i condition
    simp only [reduceCtorEq, false_iff]
    rintro ⟨isUse, -, noTarget, inside⟩
    simp [isUse, noTarget, inside] at condition

/-! ## Effects -/

/-- What is left of the effect of a statement when nothing is said of what it
records. -/
inductive Effect (state : ScanState) (statement : List Token) : ScanState → Prop
  | stays (noMark : state.mark? statement = none) (keeps : ¬state.EndsSpecification statement)
      (noUse : state.use? statement = none) : Effect state statement state
  | ends (noMark : state.mark? statement = none) (ends : state.EndsSpecification statement) :
      Effect state statement state.endSpecification
  | uses {found : Use} (isUse : state.use? statement = some found) :
      Effect state statement (state.addUse found)
  | closes {closer : Statement.Closer} {first : Token}
      (mark_eq : state.mark? statement = some (.closes closer first)) (last : Token) :
      Effect state statement (state.close closer first last)
  | opensUnit {kind : UnitKind} {first name : Token}
      (mark_eq : state.mark? statement = some (.opens ⟨first, .unit kind, name.text⟩))
      (heading : unitHeading? (unlabelled statement) = some (kind, name)) :
      Effect state statement
        (state.push (.scope ⟨first, .programUnit (.begin kind name first.line), true, []⟩))
  | opensProcedure {header : Statement.Header} {first : Token}
      (mark_eq : state.mark? statement =
        some (.opens ⟨first, .procedure header.kind, header.name.text⟩))
      (heading : header? (unlabelled statement) = some header) :
      Effect state statement (state.push (.scope ⟨first,
        .procedure (.begin header first.line (Frames.holder? state.frames)), true, []⟩))
  | opensInterface {block : Interface}
      (mark_eq : state.mark? statement =
        some (.opens ⟨block.token, .interface, block.name.getD ""⟩))
      (empty : block.bodies = []) :
      Effect state statement (state.push (.interface block.token block))
  | opensType {first : Token} {name : String}
      (mark_eq : state.mark? statement = some (.opens ⟨first, .derivedType, name⟩)) :
      Effect state statement (state.push (.derivedType first name))
  | opensEnumeration {first : Token} {name : String}
      (mark_eq : state.mark? statement = some (.opens ⟨first, .construct .enumeration, name⟩)) :
      Effect state statement (state.push (.construct first .enumeration))
  | opensConstruct {first : Token} {kind : ConstructKind} {name : String}
      (mark_eq : state.mark? statement = some (.opens ⟨first, .construct kind, name⟩))
      (executable : kind ≠ .enumeration) :
      Effect state statement (state.endSpecification.push (.construct first kind))

/-! ## What a statement cannot be at once -/

section Statements

variable {state : ScanState} {statement : List Token} {first : Token} {rest : List Token}

theorem mark?_of_assignment (target : (assignmentTarget? (unlabelled statement)).isSome = true) :
    state.mark? statement = none := by
  rw [mark?, Statement.mark?]
  split
  · rfl
  · rename_i unlabelled_eq
    rw [unlabelled_eq] at target
    rw [if_pos target]

/-- CONTAINS divides the scope that it stands in. -/
theorem isDivider_contains (isContains : first.isWord "contains" = true)
    (direct : state.innermost.any (·.isScope) = true) :
    state.innermost.any (isDivider · (first :: rest)) = true := by
  obtain ⟨kind, innermost_eq, isScope⟩ := (Option.any_eq_true _ _).mp direct
  have reads := Token.reads_of_isWord isContains
  rw [innermost_eq, Option.any_some]
  simp [isDivider, reads.word_eq, isScope]

/-- A statement that ends the specification part opens a construct, or it opens and
closes nothing. -/
theorem EndsSpecification.mark? (ends : state.EndsSpecification statement) :
    state.mark? statement = none ∨ ∃ opener kind name,
      state.mark? statement = some (.opens ⟨opener, .construct kind, name⟩) ∧
        kind ≠ .enumeration := by
  cases ends with
  | assignment target => exact .inl (mark?_of_assignment target)
  | construct opens executable => exact .inr ⟨_, _, _, opens, executable⟩
  | contains isContains direct =>
    left
    rw [ScanState.mark?, Statement.mark?, ← innermost_eq]
    cases unlabelled_eq : unlabelled statement with
    | nil => rfl
    | cons first rest =>
      rw [unlabelled_eq] at isContains
      have noCloser : closer? (first :: rest) = none :=
        Statement.closer?_eq_none (Token.reads_of_isWord isContains) (by decide)
      simp [noCloser, isDivider_contains isContains direct]
  | unknown _ _ noMark _ _ => exact .inl noMark

/-- A statement that the innermost block divides ends no specification part, unless
it is CONTAINS of a scope. -/
theorem not_endsSpecification_of_isDivider (unlabelled_eq : unlabelled statement = first :: rest)
    (noTarget : (assignmentTarget? (first :: rest)).isSome = false)
    (noMark : state.mark? statement = none)
    (divides : state.innermost.any (isDivider · (first :: rest)) = true)
    (apart : first.isWord "contains" = true → state.innermost.any (·.isScope) = false) :
    ¬state.EndsSpecification statement := by
  rintro (⟨target⟩ | ⟨opens, -⟩ | ⟨isContains, direct⟩ | ⟨-, -, -, noDivider, -⟩)
  · rw [unlabelled_eq, noTarget] at target
    contradiction
  · rw [noMark] at opens
    contradiction
  · rw [unlabelled_eq] at isContains
    rw [apart isContains] at direct
    contradiction
  · rw [unlabelled_eq, divides] at noDivider
    contradiction

/-- A statement that stands in the innermost block and opens nothing ends the
specification part only when it is not known. -/
theorem not_endsSpecification_of_stands (unlabelled_eq : unlabelled statement = first :: rest)
    (stands : state.Stands (first :: rest)) (noMark : state.mark? statement = none)
    (known : state.innermost.all (·.isOrdinary) = true →
      Statement.isSpecification (first :: rest) = true) :
    ¬state.EndsSpecification statement := by
  rintro (⟨target⟩ | ⟨opens, -⟩ | ⟨isContains, direct⟩ | ⟨-, inside, -, -, unknown⟩)
  · rw [unlabelled_eq, stands.noTarget] at target
    contradiction
  · rw [noMark] at opens
    contradiction
  · rw [unlabelled_eq] at isContains
    have divides : state.innermost.any (isDivider · (first :: rest)) = true :=
      isDivider_contains isContains direct
    rw [stands.noDivider] at divides
    contradiction
  · rw [unlabelled_eq, known inside] at unknown
    contradiction

theorem use?_eq_none_of_inside (inside : state.innermost.all (·.isOrdinary) = false) :
    state.use? statement = none := by
  simp [use?, inside]

theorem use?_eq_none_of_isWord (unlabelled_eq : unlabelled statement = first :: rest)
    (noUse : first.isWord "use" = false) : state.use? statement = none := by
  simp [use?, unlabelled_eq, noUse]

/-- A USE statement is read by itself: it opens, closes and divides nothing. -/
theorem opened?_use (isUse : first.isWord "use" = true) (innermost : Option BlockKind) :
    Statement.opened? innermost (first :: rest) = none := by
  have reads := Token.reads_of_isWord isUse
  have noUnit : unitHeading? (first :: rest) = none := by simp [unitHeading?, reads.isWord_eq]
  have noProcedure : header? (first :: rest) = none := by
    simp [header?, Statement.headerMarks?, Statement.procedureKind?, Statement.isDerivedTypeWord,
      reads.isWord_eq, reads.isAmong_eq, Vocabulary.procedureMarks, Vocabulary.intrinsicTypes]
  have noInterface : Statement.interfaceHeading? (first :: rest) = none := by
    simp [Statement.interfaceHeading?, reads.isWord_eq]
  have noType : Statement.typeHeading? (first :: rest) = none := by
    cases rest with
    | nil => rfl
    | cons second more => simp [Statement.typeHeading?, reads.isWord_eq]
  have noConstruct : Statement.construct? (first :: rest) = none := by
    simp [Statement.construct?, reads.word_eq]
  unfold Statement.opened?
  simp only [noUnit, noProcedure, noInterface, noType, noConstruct]
  split <;> rfl

theorem isDivider_use (isUse : first.isWord "use" = true) :
    state.innermost.any (isDivider · (first :: rest)) = false := by
  cases state.innermost with
  | none => rfl
  | some kind => exact Statement.isDivider_eq_false (Token.reads_of_isWord isUse) (by decide) kind

theorem not_isWord_use_of_isDivider
    (divides : state.innermost.any (isDivider · (first :: rest)) = true) :
    first.isWord "use" = false := by
  by_contra isUse
  rw [isDivider_use (eq_true_of_ne_false isUse)] at divides
  contradiction

theorem mark?_of_use? {found : Use} (isUse : state.use? statement = some found) :
    state.mark? statement = none := by
  obtain ⟨isWord, -⟩ := use?_eq_some_iff.mp isUse
  cases unlabelled_eq : unlabelled statement with
  | nil => simp [mark?, Statement.mark?, unlabelled_eq]
  | cons first rest =>
    rw [unlabelled_eq] at isWord
    have noCloser : closer? (first :: rest) = none :=
      Statement.closer?_eq_none (Token.reads_of_isWord isWord) (by decide)
    simp [mark?, Statement.mark?, unlabelled_eq, ← innermost_eq, noCloser, opened?_use isWord]

theorem not_endsSpecification_of_use? {found : Use} (isUse : state.use? statement = some found) :
    ¬state.EndsSpecification statement := by
  have noMark := mark?_of_use? isUse
  obtain ⟨isWord, -, noTarget, -⟩ := use?_eq_some_iff.mp isUse
  cases unlabelled_eq : unlabelled statement with
  | nil =>
    rw [unlabelled_eq] at isWord
    contradiction
  | cons first rest =>
    rw [unlabelled_eq] at isWord noTarget
    have reads := Token.reads_of_isWord isWord
    have noCloser : closer? (first :: rest) = none :=
      Statement.closer?_eq_none reads (by decide)
    have stands : state.Stands (first :: rest) :=
      ⟨by rw [noTarget]; rfl, noCloser, isDivider_use isWord⟩
    refine not_endsSpecification_of_stands unlabelled_eq stands noMark fun _ => ?_
    simp [Statement.isSpecification, reads.isAmong_eq, Vocabulary.specificationWords]

end Statements

/-! ## Each statement has an effect -/

section Steps

variable {state : ScanState} {statement : List Token} {first label : Token} {rest : List Token}

theorem steady_endSpecification_recordDepth (token : Token) (depth : Nat) :
    state.endSpecification.Steady (state.recordDepth token depth).endSpecification :=
  ⟨Frames.steady_refl _, rfl, rfl, rfl⟩

theorem isSpecification_of_isWord {word : String} (isWord : first.isWord word = true)
    (listed : Vocabulary.specificationWords.contains word = true) :
    Statement.isSpecification (first :: rest) = true := by
  have among : first.isAmong Vocabulary.specificationWords = true := by
    rwa [(Token.reads_of_isWord isWord).isAmong_eq]
  simp [Statement.isSpecification, among]

/-- A statement that is known and no USE is recorded in its scope. -/
theorem steady_recordPlain (noUse : first.isWord "use" = false)
    (known : Statement.isSpecification (first :: rest) = true) :
    state.Steady (state.recordPlain (first :: rest)) := by
  simp only [recordPlain]
  split_ifs with use implicit declares publishes hides intent saves external listed
  · rw [noUse] at use
    contradiction
  · unfold recordImplicit
    split
    · exact state.steady_mapNode (ScopeNode.steady_mapSpecification fun _ => rfl)
    · exact .refl state
  · exact state.steady_mapNode (ScopeNode.steady_declare _ _)
  · apply state.steady_mapNode
    apply ScopeNode.steady_mapUnit
    intro node
    split
    · exact ScopeNode.steady_recordAccess _ _ _ node
    · exact .refl _
  · apply state.steady_mapNode
    apply ScopeNode.steady_mapUnit
    intro node
    split
    · exact ScopeNode.steady_recordAccess _ _ _ node
    · exact .refl _
  · simp only [recordIntent]
    split
    · exact state.steady_mapProcedure fun _ => .procedure rfl rfl rfl
    · exact .refl state
  · exact state.steady_mapNode (ScopeNode.steady_mapSpecification fun _ => rfl)
  · exact state.steady_mapProcedure fun _ => .procedure rfl rfl rfl
  · exact .refl state
  · have unknown : Statement.isSpecification (first :: rest) = false := by
      simp [Statement.isSpecification, declares, listed]
    rw [known] at unknown
    contradiction

/-- A statement that is not known is executable. -/
theorem recordPlain_of_unknown (unknown : Statement.isSpecification (first :: rest) = false) :
    state.recordPlain (first :: rest) = state.recordExecutable (first :: rest) := by
  have differs (word : String) (listed : Vocabulary.specificationWords.contains word = true) :
      first.isWord word = false := by
    by_contra isWord
    have known : Statement.isSpecification (first :: rest) = true :=
      isSpecification_of_isWord (eq_true_of_ne_false isWord) listed
    rw [unknown] at known
    contradiction
  obtain ⟨undeclared, unlisted⟩ := Bool.or_eq_false_iff.mp unknown
  have unlisted : first.isAmong Vocabulary.specificationWords = false := unlisted
  simp only [recordPlain, undeclared, unlisted, differs "use" (by decide),
    differs "implicit" (by decide), differs "public" (by decide),
    differs "private" (by decide), differs "intent" (by decide),
    differs "save" (by decide), differs "external" (by decide),
    Bool.false_eq_true, if_false]

/-- A statement that stands in an ordinary block and opens nothing is recorded. -/
theorem exists_effect_recordPlain (unlabelled_eq : unlabelled statement = first :: rest)
    (stands : state.Stands (first :: rest)) (noMark : state.mark? statement = none)
    (inside : state.innermost.all (·.isOrdinary) = true) (depth : Nat) :
    ∃ base, state.Effect statement base ∧
      base.Steady ((state.recordDepth label depth).recordPlain (first :: rest)) := by
  have noted := state.steady_recordDepth label depth
  cases isUse : first.isWord "use" with
  | true =>
    have use_eq : state.use? statement = Use.ofStatement? (first :: rest) := by
      simp [use?, unlabelled_eq, isUse, inside, Option.isSome_eq_false_iff.mp stands.noTarget]
    have plain_eq : (state.recordDepth label depth).recordPlain (first :: rest) =
        (state.recordDepth label depth).recordUse (first :: rest) := if_pos isUse
    rw [plain_eq, recordUse]
    cases found_eq : Use.ofStatement? (first :: rest) with
    | none =>
      refine ⟨state, .stays noMark ?_ (use_eq.trans found_eq), noted⟩
      exact not_endsSpecification_of_stands unlabelled_eq stands noMark fun _ =>
        isSpecification_of_isWord isUse (by decide)
    | some found =>
      refine ⟨state.addUse found, .uses (use_eq.trans found_eq), ?_⟩
      dsimp only [addUse]
      split
      · rw [if_pos ‹_›]
        exact ⟨Frames.steady_refl _, rfl, rfl, rfl⟩
      · rw [if_neg ‹_›]
        exact ⟨Frames.steady_refl _, rfl, rfl, rfl⟩
  | false =>
    cases known : Statement.isSpecification (first :: rest) with
    | true =>
      refine ⟨state, .stays noMark ?_ ?_, noted.trans (steady_recordPlain isUse known)⟩
      · exact not_endsSpecification_of_stands unlabelled_eq stands noMark fun _ => known
      · exact use?_eq_none_of_isWord unlabelled_eq isUse
    | false =>
      refine ⟨state.endSpecification, .ends noMark ?_, ?_⟩
      · refine .unknown (by simp [unlabelled_eq]) inside noMark ?_ ?_
        · rw [unlabelled_eq, stands.noDivider]
        · rw [unlabelled_eq, known]
      · rw [recordPlain_of_unknown known]
        exact (steady_endSpecification_recordDepth label depth).trans
          (steady_recordExecutable _ _)

/-- A statement directly in a derived type, an enumeration or an interface block has no
effect outside that block, when it opens and closes nothing. -/
theorem stays_of_inside (unlabelled_eq : unlabelled statement = first :: rest)
    (stands : state.Stands (first :: rest)) (noMark : state.mark? statement = none)
    (inside : state.innermost.all (·.isOrdinary) = false) : state.Effect statement state := by
  refine .stays noMark ?_ (use?_eq_none_of_inside inside)
  refine not_endsSpecification_of_stands unlabelled_eq stands noMark fun ordinary => ?_
  rw [inside] at ordinary
  contradiction

/-- CONTAINS ends the specification part of the scope that it divides, and divides a
derived type without effect. -/
theorem exists_effect_recordContains (unlabelled_eq : unlabelled statement = first :: rest)
    (noTarget : (assignmentTarget? (first :: rest)).isSome = false)
    (noMark : state.mark? statement = none)
    (divides : state.innermost.any (isDivider · (first :: rest)) = true)
    (isContains : first.isWord "contains" = true) (depth : Nat) :
    ∃ base, state.Effect statement base ∧
      base.Steady ((state.recordDepth label depth).recordContains first) := by
  have recorded := steady_recordContains (state.recordDepth label depth) first
  have innermost_eq : (state.recordDepth label depth).innermost = state.innermost := rfl
  rw [innermost_eq] at recorded
  cases direct : state.innermost.any (·.isScope) with
  | true =>
    rw [if_pos direct] at recorded
    refine ⟨state.endSpecification, .ends noMark (.contains ?_ direct), ?_⟩
    · rwa [unlabelled_eq]
    · exact (steady_endSpecification_recordDepth _ _).trans recorded
  | false =>
    rw [if_neg (Bool.not_eq_true _ ▸ direct)] at recorded
    refine ⟨state, .stays noMark ?_ ?_, (state.steady_recordDepth _ _).trans recorded⟩
    · exact not_endsSpecification_of_isDivider unlabelled_eq noTarget noMark divides
        fun _ => direct
    · exact use?_eq_none_of_isWord unlabelled_eq (not_isWord_use_of_isDivider divides)

/-- A statement without tokens behind its label has no effect. -/
theorem stays_of_unlabelled_nil (unlabelled_eq : unlabelled statement = []) :
    state.Effect statement state := by
  have noMark : state.mark? statement = none := by
    simp only [mark?, Statement.mark?, unlabelled_eq]
  refine .stays noMark ?_ (by simp [use?, unlabelled_eq])
  rintro (⟨target⟩ | ⟨opens, -⟩ | ⟨isContains, -⟩ | ⟨written, -⟩)
  · simp [unlabelled_eq, assignmentTarget?] at target
  · simp [noMark] at opens
  · simp [unlabelled_eq] at isContains
  · exact written unlabelled_eq

section Openers

variable {after : ScanState}

theorem steady_openUnit? {kind : UnitKind} {name : Token}
    (heading : unitHeading? (first :: rest) = some (kind, name))
    (opened : state.openUnit? (first :: rest) = some after) :
    (state.push (.scope ⟨first, .programUnit (.begin kind name first.line), true, []⟩)).Steady
      after := by
  simp only [openUnit?, heading, Option.map_some, Option.some.injEq] at opened
  subst opened
  split
  · exact ⟨Frames.steady_refl _, rfl, rfl, rfl⟩
  · exact ⟨Frames.steady_refl _, rfl, rfl, rfl⟩

theorem steady_openProcedure? {header : Statement.Header}
    (heading : header? (first :: rest) = some header)
    (opened : state.openProcedure? (first :: rest) = some after) :
    (state.push (.scope ⟨first,
      .procedure (.begin header first.line (Frames.holder? state.frames)), true, []⟩)).Steady
      after := by
  simp only [openProcedure?, heading, Option.map_some, Option.some.injEq] at opened
  subst opened
  split
  · exact ⟨Frames.steady_refl _, rfl, rfl, rfl⟩
  · exact ⟨Frames.steady_refl _, rfl, rfl, rfl⟩

theorem steady_openInterface? {block : Interface}
    (heading : Statement.interfaceHeading? (first :: rest) = some block)
    (opened : state.openInterface? (first :: rest) = some after) :
    (state.push (.interface block.token block)).Steady after := by
  simp only [openInterface?, heading, Option.map_some, Option.some.injEq] at opened
  subst opened
  exact .refl _

theorem steady_openType? {derivedType : DerivedType}
    (heading : Statement.typeHeading? (first :: rest) = some derivedType)
    (opened : state.openType? (first :: rest) = some after) :
    (state.push (.derivedType first derivedType.name)).Steady after := by
  simp only [openType?, heading, Option.map_some, Option.some.injEq] at opened
  subst opened
  apply Steady.push
  apply steady_mapNode
  apply ScopeNode.steady_mapUnit
  intro node
  refine .trans ?_ (ScopeNode.steady_grant _ _ _ _)
  exact .programUnit rfl rfl rfl

end Openers

/-- Every statement has one of the effects listed, apart from what it records. -/
theorem exists_effect (state : ScanState) (statement : List Token) :
    ∃ base, state.Effect statement base ∧ base.Steady (state.step statement) := by
  cases unlabelled_eq : unlabelled statement with
  | nil =>
    have step_eq : state.step statement = state := by
      cases statement with
      | nil => rfl
      | cons label others => simp only [step, unlabelled_eq]
    rw [step_eq]
    exact ⟨state, stays_of_unlabelled_nil unlabelled_eq, .refl state⟩
  | cons first rest =>
  cases statement with
  | nil => simp [unlabelled] at unlabelled_eq
  | cons label others =>
  have deed := deed_step state label others unlabelled_eq
  have noted (depth : Nat) : state.Steady (state.recordDepth label depth) :=
    state.steady_recordDepth label depth
  generalize mark_eq : state.mark? (label :: others) = mark at deed
  generalize state.step (label :: others) = after at deed ⊢
  cases deed with
  | executes target =>
    refine ⟨state.endSpecification, .ends mark_eq (.assignment ?_), ?_⟩
    · rwa [unlabelled_eq]
    · exact (steady_endSpecification_recordDepth _ _).trans (steady_recordExecutable _ _)
  | closes noTarget closes depth =>
    exact ⟨_, .closes mark_eq _, steady_recordDepth _ _ _⟩
  | divides noTarget divides noContains =>
    refine ⟨state, .stays mark_eq ?_ ?_, noted _⟩
    · refine not_endsSpecification_of_isDivider unlabelled_eq noTarget mark_eq divides ?_
      exact fun isContains => by simp [noContains] at isContains
    · exact use?_eq_none_of_isWord unlabelled_eq (not_isWord_use_of_isDivider divides)
  | contains noTarget divides isContains =>
    exact exists_effect_recordContains unlabelled_eq noTarget mark_eq divides isContains _
  | component stands inside =>
    exact ⟨state, stays_of_inside unlabelled_eq stands mark_eq (by rw [inside]; rfl), noted _⟩
  | enumerates stands inside =>
    exact ⟨state, stays_of_inside unlabelled_eq stands mark_eq (by rw [inside]; rfl),
      (noted _).trans (steady_recordEnumerators _ _)⟩
  | member stands inside =>
    exact ⟨state, stays_of_inside unlabelled_eq stands mark_eq (by rw [inside]; rfl),
      (noted _).trans (steady_recordMember _ _)⟩
  | opensUnit stands heading opened =>
    refine ⟨_, .opensUnit mark_eq (by rwa [unlabelled_eq]), ?_⟩
    exact ((noted _).push _).trans (steady_openUnit? heading opened)
  | opensProcedure stands heading opened =>
    refine ⟨_, .opensProcedure mark_eq (by rwa [unlabelled_eq]), ?_⟩
    exact ((noted _).push _).trans (steady_openProcedure? heading opened)
  | opensInterface stands heading opened =>
    refine ⟨_, .opensInterface mark_eq (Statement.bodies_of_interfaceHeading? heading), ?_⟩
    exact ((noted _).push _).trans (steady_openInterface? heading opened)
  | opensType stands heading opened =>
    refine ⟨_, .opensType mark_eq, ?_⟩
    exact ((noted _).push _).trans (steady_openType? heading opened)
  | @opensConstruct kind after stands heading opened =>
    simp only [openConstruct?, heading, Option.map_some, Option.some.injEq] at opened
    subst opened
    split
    · rename_i kind_eq
      subst kind_eq
      exact ⟨_, .opensEnumeration mark_eq, (noted _).push _⟩
    · rename_i executable
      refine ⟨_, .opensConstruct mark_eq executable, ?_⟩
      exact ((steady_endSpecification_recordDepth _ _).trans (steady_recordExecutable _ _)).push _
  | records stands inside noUnit noProcedure noInterface noType noConstruct =>
    exact exists_effect_recordPlain unlabelled_eq stands mark_eq inside _

end Steps

end ScanState

end FortranStyle
