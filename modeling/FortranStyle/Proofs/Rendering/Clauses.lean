import FortranStyle.Proofs.Nesting.EndStatement
import FortranStyle.Proofs.Rendering.Reading

/-!
# Rendered statements one by one

What the readers of statements make of a rendered statement.  Most statements
start with a word that opens no scope, interface or type and closes nothing; such
a statement is no assignment either, because no sign of assignment can stand
behind its word.
-/

namespace FortranStyle

/-! ## Tokens with the same face -/

theorem Token.isOp_congr {token other : Token} (same : token.face = other.face)
    (operator : String) : token.isOp operator = other.isOp operator := by
  obtain ⟨kind_eq, text_eq⟩ := Prod.mk.inj same
  rw [isOp, isOp, kind_eq, text_eq]

namespace Bracket

theorem closingIndex?_congr {tokens others : List Token}
    (same : tokens.map Token.face = others.map Token.face) (depth : Int) :
    closingIndex? depth tokens = closingIndex? depth others := by
  induction tokens generalizing others depth with
  | nil =>
    rw [List.map_eq_nil_iff.mp same.symm]
  | cons token rest ih =>
    obtain ⟨other, more, rfl, face_eq, rest_eq⟩ := List.map_eq_cons_iff.mp same.symm
    have opening_eq : other.isOpening = token.isOpening := by
      simp only [Token.isOpening, Token.isOp_congr face_eq]
    have closing_eq : other.isClosing = token.isClosing := by
      simp only [Token.isClosing, Token.isOp_congr face_eq]
    have depth_eq : depthAfter depth other = depthAfter depth token := by
      rw [depthAfter, depthAfter, opening_eq, closing_eq]
    rw [closingIndex?, closingIndex?, closing_eq, depth_eq, ih rest_eq.symm]

theorem closingIndex?_append {tokens : List Token} {depth : Int} {index : Nat}
    (found : closingIndex? depth tokens = some index) (rest : List Token) :
    closingIndex? depth (tokens ++ rest) = some index := by
  induction tokens generalizing depth index with
  | nil => contradiction
  | cons token more ih =>
    rw [List.cons_append, closingIndex?]
    rw [closingIndex?] at found
    split at found
    · rwa [if_pos ‹_›]
    · obtain ⟨inner, inner_eq, rfl⟩ := Option.map_eq_some_iff.mp found
      rw [if_neg ‹_›, ih inner_eq, Option.map_some]

end Bracket

/-! ## Words -/

/-- A token is a name with the given spelling in small letters. -/
structure Token.Reads (token : Token) (word : String) : Prop where
  isName : token.isName = true
  lower_eq : token.lower = word

theorem Token.reads_of_isWord {token : Token} {word : String} (isWord : token.isWord word = true) :
    token.Reads word := by
  obtain ⟨isName, lower_eq⟩ := Bool.and_eq_true_iff.mp isWord
  exact ⟨isName, eq_of_beq lower_eq⟩

theorem Token.isOp_of_isName {token : Token} (isName : token.isName = true) (operator : String) :
    token.isOp operator = false := by
  simp only [Token.isName, Bool.or_eq_true, beq_iff_eq] at isName
  rcases isName with kind_eq | kind_eq <;> simp [Token.isOp, kind_eq]

namespace Token.Reads

variable {token : Token} {word : String}

theorem word_eq (reads : token.Reads word) : token.word = word := by
  rw [Token.word, if_pos reads.isName, reads.lower_eq]

theorem isWord_eq (reads : token.Reads word) (other : String) :
    token.isWord other = (word == other) := by
  rw [Token.isWord, reads.isName, reads.lower_eq, Bool.true_and]

theorem isAmong_eq (reads : token.Reads word) (words : List String) :
    token.isAmong words = words.contains word := by
  rw [Token.isAmong, reads.isName, reads.lower_eq, Bool.true_and]

/-- A name is no number. -/
theorem kind_ne (reads : token.Reads word) : token.kind ≠ .number := by
  intro kind_eq
  have isName := reads.isName
  rw [Token.isName, kind_eq] at isName
  contradiction

end Token.Reads

namespace Statement

/-! ## Statements that are no assignments -/

/-- Behind the first name of a statement, tokens that make it no assignment and
leave the name part of it. -/
structure Inert (tokens : List Token) : Prop where
  noAssignment : leadsToAssignment tokens = false
  noColon : tokens.head?.all (!·.isOp ":") = true

theorem inert_nil : Inert [] where
  noAssignment := by rw [leadsToAssignment]
  noColon := rfl

theorem inert_name {token : Token} (isName : token.isName = true) (rest : List Token) :
    Inert (token :: rest) where
  noAssignment := by
    rw [leadsToAssignment.eq_def]
    simp [Token.isOp_of_isName isName]
  noColon := by
    simp [Token.isOp_of_isName isName]

theorem leadsToAssignment_bracket {tokens : List Token} (starts : startsBracket tokens = true) :
    leadsToAssignment tokens = leadsToAssignment (Bracket.beyond tokens) := by
  cases tokens with
  | nil => contradiction
  | cons token rest =>
    have bracket : token.isOp "(" = true := starts
    rw [leadsToAssignment.eq_def]
    simp only [bracket, if_true]

theorem noColon_bracket {tokens : List Token} (starts : startsBracket tokens = true) :
    tokens.head?.all (!·.isOp ":") = true := by
  cases tokens with
  | nil => contradiction
  | cons token rest =>
    have bracket : token.isOp "(" = true := starts
    simp only [Token.isOp, Bool.and_eq_true, beq_iff_eq] at bracket
    simp [Token.isOp, bracket.2]

theorem inert_bracket {tokens : List Token} (starts : startsBracket tokens = true)
    (inert : Inert (Bracket.beyond tokens)) : Inert tokens where
  noAssignment := (leadsToAssignment_bracket starts).trans inert.noAssignment
  noColon := noColon_bracket starts

theorem unlabelled_eq_self {first : Token} {rest : List Token} (isName : first.isName = true)
    (noColon : rest.head?.all (!·.isOp ":") = true) :
    unlabelled (first :: rest) = first :: rest := by
  have noLabel : (first.kind == TokenKind.number) = false := by
    simp only [Token.isName, Bool.or_eq_true, beq_iff_eq] at isName
    rcases isName with kind_eq | kind_eq <;> rw [kind_eq] <;> rfl
  rcases rest with _ | ⟨second, _ | ⟨third, more⟩⟩
  · simp [unlabelled, noLabel]
  · simp [unlabelled, noLabel]
  · simp only [List.head?_cons, Option.all_some, Bool.not_eq_true'] at noColon
    simp [unlabelled, noLabel, noColon]

/-! ## Statements that start with a quiet word -/

/-- The words that may close a block. -/
def endWords : List String :=
  "end" :: BlockKind.all.map ("end" ++ ·.word)

/-- The words that may close a block, or open a scope, an interface or a derived
type. -/
def loudWords : List String :=
  endWords ++ ["program", "module", "submodule", "abstract", "interface", "type", "class",
    "function", "subroutine"] ++ Vocabulary.procedureMarks ++ Vocabulary.intrinsicTypes

/-- The words that may divide a block. -/
def dividingWords : List String :=
  ["contains", "else", "elseif", "elsewhere", "case", "rank", "type", "class"]

/-- A statement without a label that is no assignment and closes nothing. -/
structure Plain (tokens : List Token) : Prop where
  unlabelled : unlabelled tokens = tokens
  noAssignment : assignmentTarget? tokens = none
  noCloser : closer? tokens = none

/-- A plain statement that opens nothing, unless it opens a construct. -/
structure Quiet (tokens : List Token) : Prop extends Plain tokens where
  noUnit : unitHeading? tokens = none
  noProcedure : header? tokens = none
  noInterface : interfaceHeading? tokens = none
  noType : typeHeading? tokens = none

section Quiet

variable {first : Token} {rest : List Token} {word : String}

theorem assignmentTarget?_eq_none (inert : Inert rest) :
    assignmentTarget? (first :: rest) = none := by
  rw [assignmentTarget?, inert.noAssignment, Bool.and_false, if_neg Bool.false_ne_true]

theorem closer?_eq_none (reads : first.Reads word) (noEnd : word ∉ endWords) :
    closer? (first :: rest) = none := by
  simp only [endWords, List.mem_cons, not_or, List.mem_map, not_exists, not_and] at noEnd
  have noJoined : joinedEnd? first = none := by
    rw [joinedEnd?, List.find?_eq_none]
    intro kind listed
    rw [reads.isWord_eq, beq_iff_eq]
    exact fun same => noEnd.2 kind listed same.symm
  simp [closer?, noJoined, reads.isWord_eq, noEnd.1]

theorem plain (reads : first.Reads word) (noEnd : word ∉ endWords) (inert : Inert rest) :
    Plain (first :: rest) where
  unlabelled := unlabelled_eq_self reads.isName inert.noColon
  noAssignment := assignmentTarget?_eq_none inert
  noCloser := closer?_eq_none reads noEnd

theorem quiet (reads : first.Reads word) (notLoud : word ∉ loudWords) (inert : Inert rest) :
    Quiet (first :: rest) := by
  simp only [loudWords, List.mem_append, List.mem_cons, List.not_mem_nil, or_false,
    not_or] at notLoud
  obtain ⟨⟨⟨noEnd, named⟩, noMark⟩, noIntrinsic⟩ := notLoud
  obtain ⟨noProgram, noModule, noSubmodule, noAbstract, noInterface, noType, noClass, noFunction,
    noSubroutine⟩ := named
  constructor
  case toPlain => exact plain reads noEnd inert
  case noUnit => simp [unitHeading?, reads.isWord_eq, noProgram, noModule, noSubmodule]
  case noProcedure =>
    simp [header?, headerMarks?, procedureKind?, isDerivedTypeWord, reads.isWord_eq,
      reads.isAmong_eq, noFunction, noSubroutine, noMark, noIntrinsic, noType, noClass]
  case noInterface =>
    simp [interfaceHeading?, reads.isWord_eq, noAbstract, noInterface]
  case noType =>
    cases rest with
    | nil => rfl
    | cons second more => simp [typeHeading?, reads.isWord_eq, noType]

theorem isDivider_eq_false (reads : first.Reads word) (notDividing : word ∉ dividingWords)
    (kind : BlockKind) : isDivider kind (first :: rest) = false := by
  simp only [dividingWords, List.mem_cons, List.not_mem_nil, or_false, not_or] at notDividing
  rcases kind with kind | kind | _ | _ | kind
  case construct => cases kind <;> simp [isDivider, reads.word_eq, notDividing]
  all_goals simp [isDivider, reads.word_eq, notDividing]

end Quiet

end Statement

namespace Rendering

open Statement

/-! ## The words of a statement -/

section Words

variable {token : Token} {tokens statement : List Token} {faces : List (TokenKind × String)}

theorem reads_name {name : Name} (face_eq : token.face = (Word.name name).face) :
    token.text = name.text ∧ token.Reads (Text.lower name.text) := by
  obtain ⟨kind_eq, text_eq⟩ := Prod.mk.inj face_eq
  refine ⟨text_eq, ?_, congrArg Text.lower text_eq⟩
  rw [Token.isName, kind_eq, Lexeme.nameKind]
  split <;> rfl

theorem reads_word {spelling : String} {isName}
    (face_eq : token.face = (word spelling isName).face)
    (small : Text.lower spelling = spelling) : token.Reads spelling := by
  obtain ⟨-, reads⟩ := reads_name face_eq
  refine ⟨reads.isName, reads.lower_eq.trans ?_⟩
  rwa [Name.text, String.ofList_toList]

theorem reads_kindWord {kind : BlockKind} (face_eq : token.face = (kindWord kind).face) :
    token.Reads kind.word := by
  apply reads_word face_eq
  rcases kind with kind | kind | _ | _ | kind <;> (try cases kind) <;> decide

/-- A statement whose first face is that of a fixed word. -/
theorem exists_reads {spelling : String} {isName}
    (faces_eq : statement.map Token.face = (word spelling isName).face :: faces)
    (small : Text.lower spelling = spelling) :
    ∃ first rest, statement = first :: rest ∧ first.Reads spelling ∧
      rest.map Token.face = faces := by
  obtain ⟨first, rest, rfl, face_eq, rest_eq⟩ := List.map_eq_cons_iff.mp faces_eq
  exact ⟨first, rest, rfl, reads_word face_eq small, rest_eq⟩

/-- A run of tokens whose first face is that of a name. -/
theorem exists_name {name : Name}
    (faces_eq : tokens.map Token.face = (Word.name name).face :: faces) :
    ∃ first rest, tokens = first :: rest ∧ first.text = name.text ∧
      first.Reads (Text.lower name.text) ∧ rest.map Token.face = faces := by
  obtain ⟨first, rest, rfl, face_eq, rest_eq⟩ := List.map_eq_cons_iff.mp faces_eq
  obtain ⟨text_eq, reads⟩ := reads_name face_eq
  exact ⟨first, rest, rfl, text_eq, reads, rest_eq⟩

/-- An expression in brackets is one bracket, and what follows is beyond it. -/
theorem Bracketed.beyond (bracketed : Bracketed)
    (faces_eq : tokens.map Token.face = bracketed.faces ++ faces) :
    startsBracket tokens = true ∧ (Bracket.beyond tokens).map Token.face = faces := by
  obtain ⟨bracket, back, rfl, bracket_eq, back_eq⟩ := List.map_eq_append_iff.mp faces_eq
  have closes := bracketed.closes
  have length_eq : bracket.length = (code bracketed.chars).length := by
    simpa [Expression.faces] using congrArg List.length bracket_eq
  rw [← Bracket.closingIndex?_congr bracket_eq, ← length_eq] at closes
  have opens := bracketed.opens
  cases bracket with
  | nil =>
    rw [List.length_nil] at length_eq
    rw [List.eq_nil_of_length_eq_zero length_eq.symm] at opens
    contradiction
  | cons token more =>
    constructor
    · obtain ⟨first, others, code_eq, face_eq, -⟩ := List.map_eq_cons_iff.mp bracket_eq.symm
      rw [code_eq] at opens
      rw [List.cons_append, startsBracket, ← Token.isOp_congr face_eq]
      exact opens
    · have partner_eq : Bracket.partner (token :: more ++ back) = more.length := by
        rw [Bracket.partner, Bracket.closingIndex?_append closes, Option.getD_some]
        rfl
      rw [Bracket.beyond, partner_eq, List.cons_append, List.drop_succ_cons, List.drop_left,
        back_eq]

/-! Three forms of statements start with a fixed word: the word may stand alone,
and a name or an expression in brackets may follow it. -/

theorem exists_alone {spelling : String} {isName}
    (faces_eq : statement.map Token.face = [(word spelling isName).face])
    (small : Text.lower spelling = spelling) :
    ∃ first, statement = [first] ∧ first.Reads spelling := by
  obtain ⟨first, rest, rfl, reads, rest_eq⟩ := exists_reads faces_eq small
  obtain rfl := List.map_eq_nil_iff.mp rest_eq
  exact ⟨first, rfl, reads⟩

theorem exists_pair {spelling : String} {isName} {name : Name}
    (faces_eq : statement.map Token.face =
      (word spelling isName).face :: (Word.name name).face :: faces)
    (small : Text.lower spelling = spelling) :
    ∃ first second rest, statement = first :: second :: rest ∧ first.Reads spelling ∧
      second.Reads (Text.lower name.text) := by
  obtain ⟨first, tail, rfl, reads, tail_eq⟩ := exists_reads faces_eq small
  obtain ⟨second, rest, rfl, -, second_reads, -⟩ := exists_name tail_eq
  exact ⟨first, second, rest, rfl, reads, second_reads⟩

theorem exists_bracket {spelling : String} {isName} {bracketed : Bracketed}
    (faces_eq : statement.map Token.face =
      (word spelling isName).face :: (bracketed.faces ++ []))
    (small : Text.lower spelling = spelling) :
    ∃ first rest, statement = first :: rest ∧ first.Reads spelling ∧
      startsBracket rest = true ∧ Bracket.beyond rest = [] ∧ Inert rest := by
  obtain ⟨first, rest, rfl, reads, rest_eq⟩ := exists_reads faces_eq small
  obtain ⟨starts, beyond_eq⟩ := bracketed.beyond rest_eq
  have nothing := List.map_eq_nil_iff.mp beyond_eq
  have behind : Inert (Bracket.beyond rest) := by
    rw [nothing]
    exact inert_nil
  exact ⟨first, rest, rfl, reads, starts, nothing, inert_bracket starts behind⟩

/-- A condition with THEN behind it. -/
theorem exists_then {condition : Bracketed} {isName}
    (faces_eq : tokens.map Token.face = condition.faces ++ [(word "then" isName).face]) :
    startsBracket tokens = true ∧ 2 ≤ tokens.length ∧
      tokens.getLast?.any (·.isWord "then") = true ∧ Inert tokens := by
  obtain ⟨starts, beyond_eq⟩ := condition.beyond faces_eq
  obtain ⟨last, beyond_eq, reads⟩ := exists_alone beyond_eq (by decide)
  have behind : Inert (Bracket.beyond tokens) := by
    rw [beyond_eq]
    exact inert_name reads.isName []
  have whole := List.take_append_drop (Bracket.partner tokens + 1) tokens
  rw [Bracket.beyond] at beyond_eq
  have length_eq := congrArg List.length beyond_eq
  rw [List.length_drop, List.length_singleton] at length_eq
  refine ⟨starts, by omega, ?_, inert_bracket starts behind⟩
  rw [← whole, beyond_eq, List.getLast?_concat]
  simp [reads.isWord_eq]

end Words

/-! ## What the statements are -/

section Clauses

variable {line : Nat} {statement : List Token} {kind : ConstructKind}

/-- The statement that opens a construct starts with the word of its kind. -/
theorem Opener.exists_reads (opener : Opener kind)
    (written : Written line (.opener opener) statement) :
    ∃ first rest, statement = first :: rest ∧ first.Reads kind.word ∧ Inert rest ∧
      construct? statement = some kind := by
  have faces := written.faces
  cases opener with
  | loop =>
    obtain ⟨first, rfl, reads⟩ := exists_alone faces (by decide)
    exact ⟨first, [], rfl, reads, inert_nil, by simp [construct?, reads.word_eq]⟩
  | loopWith name control =>
    obtain ⟨first, second, rest, rfl, reads, next⟩ := exists_pair faces (by decide)
    exact ⟨first, second :: rest, rfl, reads, inert_name next.isName rest, by
      simp [construct?, reads.word_eq, next.kind_ne]⟩
  | ifThen condition =>
    obtain ⟨first, rest, rfl, reads, rest_eq⟩ := Rendering.exists_reads faces (by decide)
    obtain ⟨starts, length_le, ends, inert⟩ := exists_then rest_eq
    exact ⟨first, rest, rfl, reads, inert, by
      simp [construct?, reads.word_eq, starts, length_le, ends]⟩
  | selectCase selector =>
    obtain ⟨first, second, rest, rfl, reads, next⟩ := exists_pair faces (by decide)
    exact ⟨first, second :: rest, rfl, reads, inert_name next.isName rest, by
      simp [construct?, reads.word_eq]⟩
  | whereMask mask =>
    obtain ⟨first, rest, rfl, reads, starts, nothing, inert⟩ := exists_bracket faces (by decide)
    exact ⟨first, rest, rfl, reads, inert, by
      simp [construct?, reads.word_eq, isOneBracket, starts, nothing]⟩
  | forallLoop control =>
    obtain ⟨first, rest, rfl, reads, starts, nothing, inert⟩ := exists_bracket faces (by decide)
    exact ⟨first, rest, rfl, reads, inert, by
      simp [construct?, reads.word_eq, isOneBracket, starts, nothing]⟩
  | associate names =>
    obtain ⟨first, rest, rfl, reads, starts, nothing, inert⟩ := exists_bracket faces (by decide)
    exact ⟨first, rest, rfl, reads, inert, by
      simp [construct?, reads.word_eq, starts]⟩
  | block =>
    obtain ⟨first, rfl, reads⟩ := exists_alone faces (by decide)
    exact ⟨first, [], rfl, reads, inert_nil, by simp [construct?, reads.word_eq]⟩
  | critical control =>
    cases control with
    | none =>
      obtain ⟨first, rfl, reads⟩ := exists_alone faces (by decide)
      exact ⟨first, [], rfl, reads, inert_nil, by simp [construct?, reads.word_eq]⟩
    | some control =>
      obtain ⟨first, rest, rfl, reads, starts, nothing, inert⟩ := exists_bracket faces (by decide)
      exact ⟨first, rest, rfl, reads, inert, by simp [construct?, reads.word_eq, starts]⟩

/-- A statement that opens a construct does nothing else. -/
theorem Opener.quiet (opener : Opener kind)
    (written : Written line (.opener opener) statement) :
    Quiet statement ∧ (∀ within, isDivider within statement = false) ∧
      construct? statement = some kind := by
  obtain ⟨first, rest, rfl, reads, inert, construct_eq⟩ := opener.exists_reads written
  have notLoud : kind.word ∉ loudWords := by
    cases kind <;> decide
  have notDividing : kind.word ∉ dividingWords := by
    cases kind <;> decide
  exact ⟨Statement.quiet reads notLoud inert, isDivider_eq_false reads notDividing, construct_eq⟩

/-- A statement that divides a construct divides it. -/
theorem Divider.quiet (divider : Divider kind)
    (written : Written line (.divider divider) statement) :
    Quiet statement ∧ isDivider (.construct kind) statement = true ∧
      ∃ first rest, statement = first :: rest ∧ first.isWord "contains" = false := by
  have faces := written.faces
  cases divider with
  | elseIf condition =>
    obtain ⟨first, second, rest, rfl, reads, next⟩ := exists_pair faces (by decide)
    exact ⟨Statement.quiet reads (by decide) (inert_name next.isName rest),
      by simp [isDivider, reads.word_eq], first, _, rfl, by simp [reads.isWord_eq]⟩
  | otherwise =>
    obtain ⟨first, rfl, reads⟩ := exists_alone faces (by decide)
    exact ⟨Statement.quiet reads (by decide) inert_nil,
      by simp [isDivider, reads.word_eq], first, _, rfl, by simp [reads.isWord_eq]⟩
  | caseOf values =>
    obtain ⟨first, rest, rfl, reads, -, -, inert⟩ := exists_bracket faces (by decide)
    exact ⟨Statement.quiet reads (by decide) inert,
      by simp [isDivider, reads.word_eq], first, _, rfl, by simp [reads.isWord_eq]⟩
  | caseDefault =>
    obtain ⟨first, second, rest, rfl, reads, next⟩ := exists_pair faces (by decide)
    exact ⟨Statement.quiet reads (by decide) (inert_name next.isName rest),
      by simp [isDivider, reads.word_eq], first, _, rfl, by simp [reads.isWord_eq]⟩
  | elsewhere mask =>
    obtain ⟨first, rest, rfl, reads, inert⟩ :
        ∃ first rest, statement = first :: rest ∧ first.Reads "elsewhere" ∧ Inert rest := by
      cases mask with
      | none =>
        obtain ⟨first, rfl, reads⟩ := exists_alone faces (by decide)
        exact ⟨first, [], rfl, reads, inert_nil⟩
      | some mask =>
        obtain ⟨first, rest, rfl, reads, -, -, inert⟩ := exists_bracket faces (by decide)
        exact ⟨first, rest, rfl, reads, inert⟩
    exact ⟨Statement.quiet reads (by decide) inert,
      by simp [isDivider, reads.word_eq], first, _, rfl, by simp [reads.isWord_eq]⟩

/-- CONTAINS divides every scope. -/
theorem quiet_contains (written : Written line .contains statement) :
    Quiet statement ∧ (∀ within, within.isScope = true → isDivider within statement = true) ∧
      ∃ first, statement = [first] ∧ first.isWord "contains" = true := by
  obtain ⟨first, rfl, reads⟩ := exists_alone written.faces (by decide)
  refine ⟨Statement.quiet reads (by decide) inert_nil, ?_, first, rfl, by simp [reads.isWord_eq]⟩
  intro within isScope
  simp [isDivider, reads.word_eq, isScope]

/-- CALL opens, closes and divides nothing. -/
theorem quiet_call {name : Name} {arguments : Option Expression}
    (written : Written line (.leaf (.call name arguments)) statement) :
    Quiet statement ∧ (∀ within, isDivider within statement = false) ∧
      construct? statement = none ∧
      ∃ first rest, statement = first :: rest ∧ first.Reads "call" := by
  obtain ⟨first, second, rest, rfl, reads, next⟩ := exists_pair written.faces (by decide)
  exact ⟨Statement.quiet reads (by decide) (inert_name next.isName rest),
    isDivider_eq_false reads (by decide), by simp [construct?, reads.word_eq], first, _, rfl,
    reads⟩

/-- IMPLICIT NONE opens, closes and divides nothing. -/
theorem quiet_implicitNone (written : Written line .implicitNone statement) :
    Quiet statement ∧ (∀ within, isDivider within statement = false) ∧
      construct? statement = none ∧
      ∃ first rest, statement = first :: rest ∧ first.Reads "implicit" := by
  obtain ⟨first, second, rest, rfl, reads, next⟩ := exists_pair written.faces (by decide)
  exact ⟨Statement.quiet reads (by decide) (inert_name next.isName rest),
    isDivider_eq_false reads (by decide), by simp [construct?, reads.word_eq], first, _, rfl,
    reads⟩

/-- An assignment is one, whatever its name. -/
theorem target_assignment {target : Name} {value : Expression}
    (written : Written line (.leaf (.assignment target value)) statement) :
    unlabelled statement = statement ∧ (assignmentTarget? statement).isSome = true := by
  obtain ⟨first, rest, rfl, -, reads, rest_eq⟩ := exists_name written.faces
  obtain ⟨sign, more, rfl, sign_eq, -⟩ := List.map_eq_cons_iff.mp rest_eq
  obtain ⟨kind_eq, text_eq⟩ := Prod.mk.inj sign_eq
  constructor
  · apply unlabelled_eq_self reads.isName
    simp [Token.isOp, text_eq]
  · have leads : leadsToAssignment (sign :: more) = true := by
      rw [leadsToAssignment.eq_def]
      simp [Token.isOp, kind_eq, text_eq]
    simp [assignmentTarget?, reads.isName, leads]

/-- END with the word of a kind closes a block of that kind. -/
theorem exists_closer {kind : BlockKind} {isName} (faces : List (TokenKind × String))
    (faces_eq : statement.map Token.face =
      (word "end" isName).face :: (kindWord kind).face :: faces) :
    ∃ first rest trailing, statement = first :: rest ∧ unlabelled statement = statement ∧
      assignmentTarget? statement = none ∧
      closer? statement = some ⟨some kind, trailing⟩ ∧ trailing.map Token.face = faces := by
  obtain ⟨first, tail, rfl, reads, tail_eq⟩ := exists_reads faces_eq (by decide)
  obtain ⟨second, trailing, rfl, second_eq, trailing_eq⟩ := List.map_eq_cons_iff.mp tail_eq
  have kindReads := reads_kindWord second_eq
  have inert := inert_name kindReads.isName trailing
  have isEnd : first.isWord "end" = true := by simp [reads.isWord_eq]
  have named : second.isWord kind.word = true := by simp [kindReads.isWord_eq]
  have closer_eq : closer? (first :: second :: trailing) = some ⟨some kind, trailing⟩ :=
    closer?_eq_some_iff.mpr (.parted isEnd named)
  exact ⟨first, _, trailing, rfl, unlabelled_eq_self reads.isName inert.noColon,
    assignmentTarget?_eq_none inert, closer_eq, trailing_eq⟩

/-- The word of a kind of scope and a name start a plain statement that divides
nothing. -/
theorem exists_heading (kind : BlockKind) (isScope : kind.isScope = true) {name : Name}
    {faces : List (TokenKind × String)}
    (faces_eq : statement.map Token.face =
      (kindWord kind).face :: (Word.name name).face :: faces) :
    Plain statement ∧ (∀ within, isDivider within statement = false) ∧
      ∃ first second rest, statement = first :: second :: rest ∧ first.Reads kind.word ∧
        second.text = name.text ∧ second.Reads (Text.lower name.text) ∧
        rest.map Token.face = faces := by
  obtain ⟨first, tail, rfl, first_eq, tail_eq⟩ := List.map_eq_cons_iff.mp faces_eq
  obtain ⟨second, rest, rfl, text_eq, nameReads, rest_eq⟩ := exists_name tail_eq
  have reads := reads_kindWord first_eq
  have inert := inert_name nameReads.isName rest
  have noEnd : kind.word ∉ endWords := by
    rcases kind with kind | kind | _ | _ | kind <;> (try cases kind) <;> decide
  have notDividing : kind.word ∉ dividingWords := by
    rcases kind with kind | kind | _ | _ | _
    · cases kind <;> decide
    · cases kind <;> decide
    all_goals contradiction
  exact ⟨plain reads noEnd inert, isDivider_eq_false reads notDividing, first, second, rest, rfl,
    reads, text_eq, nameReads, rest_eq⟩

/-- The first statement of a procedure is its header. -/
theorem ProcedureHeading.plain {heading : ProcedureHeading}
    (written : Written line (.procedure heading) statement) :
    Plain statement ∧ (∀ within, isDivider within statement = false) ∧
      unitHeading? statement = none ∧
      ∃ header, header? statement = some header ∧ header.kind = heading.kind ∧
        header.name.text = heading.name.text := by
  obtain ⟨plain, noDivider, first, second, rest, rfl, reads, text_eq, nameReads, -⟩ :=
    exists_heading (.procedure heading.kind) rfl written.faces
  have kind_eq : procedureKind? first = some heading.kind := by
    cases kind_eq : heading.kind <;>
    simp [procedureKind?, reads.isWord_eq, kind_eq, BlockKind.word, ProcedureKind.word]
  have marks_eq : headerMarks? (first :: second :: rest) = some ([], first :: second :: rest) := by
    rw [headerMarks?, kind_eq]
    rfl
  refine ⟨plain, noDivider, ?_, ?_⟩
  · cases kind_eq : heading.kind <;>
    simp [unitHeading?, reads.isWord_eq, kind_eq, BlockKind.word, ProcedureKind.word]
  · simp only [header?, marks_eq, nameReads.isName, kind_eq, if_true, Option.map_some]
    split
    · exact ⟨_, rfl, rfl, text_eq⟩
    · exact ⟨_, rfl, rfl, text_eq⟩

/-- The first statement of a program unit names it. -/
theorem UnitHeading.plain {heading : UnitHeading}
    (written : Written line (.programUnit heading) statement) :
    Plain statement ∧ (∀ within, isDivider within statement = false) ∧
      ∃ name, unitHeading? statement = some (heading.kind, name) ∧
        name.text = heading.name.text := by
  obtain ⟨plain, noDivider, first, second, rest, rfl, reads, text_eq, nameReads, rest_eq⟩ :=
    exists_heading (.unit heading.kind) rfl written.faces
  obtain rfl := List.map_eq_nil_iff.mp rest_eq
  refine ⟨plain, noDivider, second, ?_, text_eq⟩
  cases heading with
  | program name => simp [unitHeading?, reads.isWord_eq, BlockKind.word, UnitKind.word, kind]
  | module name free =>
    have notProcedure : second.isAmong ["procedure", "function", "subroutine"] = false := by
      rw [nameReads.isAmong_eq]
      exact free
    simp [unitHeading?, reads.isWord_eq, BlockKind.word, UnitKind.word, kind, nameReads.isName,
      notProcedure]

end Clauses

end Rendering

end FortranStyle
