import FortranStyle.Proofs.Balance.Balanced
import FortranStyle.Proofs.Placement.Check
import FortranStyle.Proofs.Reading.Name

/-!
# Array sections behind a guard

A one-line IF guards a statement.  The array sections of the whole are those of its
condition and those of the guarded statement, token by token; but which brackets hold bounds
is decided by the first word of the whole, which is IF, so the bounds in a guarded ALLOCATE
are taken for sections.
-/

namespace FortranStyle

/-! ## Sections of a run of tokens -/

namespace Bracket

/-- Every bracket that opens in a run closes in it. -/
def Closes : List Token → Prop
  | [] => True
  | token :: rest =>
      (token.isOpening = true → (closingIndex? 0 (token :: rest)).isSome = true) ∧ Closes rest

theorem Balanced.closes_append {tokens rest : List Token} (balanced : Balanced tokens)
    (closes : Closes rest) : Closes (tokens ++ rest) := by
  induction balanced generalizing rest with
  | nil => exact closes
  | flat isFlat _ ih => exact ⟨fun opens => by simp [isFlat.noOpening] at opens, ih closes⟩
  | @pair opening closing inner later opens within isClosing _ ihInner ihLater =>
    have noOpening : closing.isOpening = false := by
      by_contra opens'
      rw [Position.not_isClosing_of_isOpening (by simpa using opens')] at isClosing
      contradiction
    have here := closingIndex?_append (within.closingIndex?_pair opens isClosing) (later ++ rest)
    rw [List.cons_append, List.append_assoc, List.singleton_append] at here
    rw [List.cons_append, List.append_assoc, List.cons_append]
    exact ⟨fun _ => by rw [here]; rfl,
      ihInner ⟨fun opens' => by simp [noOpening] at opens', ihLater closes⟩⟩

theorem Balanced.closes {tokens : List Token} (balanced : Balanced tokens) : Closes tokens := by
  have nothing : Closes [] := trivial
  have closes := balanced.closes_append nothing
  rwa [List.append_nil] at closes

/-- What stands in a bracket that closes in a run does not depend on what follows. -/
theorem inside_append {tokens : List Token} (closes : (closingIndex? 0 tokens).isSome = true)
    (rest : List Token) : inside (tokens ++ rest) = inside tokens := by
  obtain ⟨index, found⟩ := Option.isSome_iff_exists.mp closes
  have within := Position.closingIndex?_lt found
  rw [inside, inside, partner, partner, closingIndex?_append found, found, Option.getD_some,
    Option.getD_some, List.take_append_of_le_length (by omega)]

end Bracket

open FortranStyle.Bracket (Balanced Closes)

namespace Rule

/-- A token that is no identifier is no array section. -/
theorem stridedNames_cons {token : Token} (other : token.kind ≠ .identifier) (rest : List Token) :
    stridedNames (token :: rest) = stridedNames rest := by
  rw [stridedNames, if_neg]
  simp [other]

/-- The sections in a run whose brackets close do not depend on what follows, unless that
is a bracket. -/
theorem stridedNames_append {tokens rest : List Token} (closes : Closes tokens)
    (apart : rest.head?.any (·.isOp "(") = false) :
    stridedNames (tokens ++ rest) = stridedNames tokens ++ stridedNames rest := by
  induction tokens with
  | nil => rfl
  | cons token later ih =>
    have same : (token.kind == .identifier && (later ++ rest).head?.any (·.isOp "(") &&
          isStrided (Bracket.items (Bracket.inside (later ++ rest)))) =
        (token.kind == .identifier && later.head?.any (·.isOp "(") &&
          isStrided (Bracket.items (Bracket.inside later))) := by
      cases later with
      | nil => simp [apart]
      | cons next more =>
        by_cases opens : next.isOp "(" = true
        · rw [Bracket.inside_append (closes.2.1 (Bracket.isOpening_of_isOp opens))]
          rfl
        · simp [opens]
    rw [List.cons_append, stridedNames, stridedNames, same, ih closes.2]
    split <;> rfl

/-! ## Findings of a statement -/

/-- The finding at an array section. -/
def sectionFinding (token : Token) : Finding :=
  .at' token
    (s!"Section of '{token.text}' has a scalar subscript before a ':' subscript; " ++
      "put the contiguous dimension first")

/-- The findings at the references in a run of tokens. -/
def references (tokens : List Token) : List Finding :=
  (stridedNames tokens).map sectionFinding

/-- The findings in a statement that stands alone. -/
def sectionsIn (statement : List Token) : List Finding :=
  let statement := withoutNumber statement
  if holdsBounds statement then [] else references statement

theorem checkSections_eq (source : Source) :
    checkSections source = source.tokenized.statements.flatMap sectionsIn :=
  rfl

/-- Whether a statement has no label. -/
def isUnlabelled (statement : List Token) : Bool :=
  statement.head?.all (·.kind != .number)

theorem withoutNumber_eq {statement : List Token} (unlabelled : isUnlabelled statement = true) :
    withoutNumber statement = statement := by
  cases statement with
  | nil => rfl
  | cons first rest =>
    simp only [isUnlabelled, List.head?_cons, Option.all_some, bne_iff_ne] at unlabelled
    rw [withoutNumber, if_neg (by simpa using unlabelled)]

/-- A statement alone has the findings at all its references exactly when it holds no
bounds, or nothing that could be taken for a section. -/
theorem references_eq_sectionsIn_iff {statement : List Token}
    (unlabelled : isUnlabelled statement = true) :
    references statement = sectionsIn statement ↔
      (holdsBounds statement = true → stridedNames statement = []) := by
  rw [sectionsIn, withoutNumber_eq unlabelled]
  cases holdsBounds statement with
  | false => simp
  | true => simp [references]

/-! ## Guarded statements -/

/-- A one-line IF: its condition, and the statement it guards. -/
inductive IsGuarded : List Token → List Token → List Token → Prop
  | intro {word opening closing : Token} {condition guarded : List Token}
      (isWord : word.isWord "if" = true) (opens : opening.isOp "(" = true)
      (balanced : Balanced condition) (closes : closing.isOp ")" = true)
      (unlabelled : isUnlabelled guarded = true) :
      IsGuarded (word :: opening :: (condition ++ closing :: guarded)) condition guarded

theorem IsGuarded.isUnlabelled {tokens condition guarded : List Token}
    (isGuarded : IsGuarded tokens condition guarded) : isUnlabelled guarded = true := by
  cases isGuarded with
  | intro _ _ _ _ unlabelled => exact unlabelled

/-- A guarded statement has the findings at the references in its condition and then those
at all references of the statement behind the guard, which is never taken to hold bounds. -/
theorem sectionsIn_of_isGuarded {statement tokens condition guarded : List Token}
    (spelled : SpellsNames statement) (unlabelled : withoutNumber statement = tokens)
    (isGuarded : IsGuarded tokens condition guarded) :
    sectionsIn statement = references condition ++ references guarded := by
  cases isGuarded with
  | @intro word opening closing condition guarded isWord opens balanced closes _ =>
    have reads := Token.reads_of_isWord isWord
    have listed : word ∈ statement := by
      refine mem_of_mem_withoutNumber word ?_
      rw [unlabelled]
      exact List.mem_cons_self
    have keyword : word.kind = .keyword :=
      (spelled word listed reads.isName).kind_eq_keyword (reads.lower_eq ▸ by decide)
    have noBounds :
        holdsBounds (word :: opening :: (condition ++ closing :: guarded)) = false := by
      simp [holdsBounds, Statement.isDeclaration, reads.isAmong_eq, Vocabulary.boundsWords,
        Vocabulary.intrinsicTypes]
    have operator {token : Token} {text : String} (isOp : token.isOp text = true) :
        token.kind ≠ .identifier := by
      simp only [Token.isOp, Bool.and_eq_true, beq_iff_eq] at isOp
      simp [isOp.1]
    have apart : (closing :: guarded).head?.any (·.isOp "(") = false :=
      Position.isOp_eq_false closes (by decide)
    rw [sectionsIn, unlabelled, noBounds, if_neg Bool.false_ne_true, references,
      stridedNames_cons (by simp [keyword]), stridedNames_cons (operator opens),
      stridedNames_append balanced.closes apart, stridedNames_cons (operator closes),
      List.map_append, references, references]

/-- In every source the findings at a guarded statement, with a label or without, are those
at the references in its condition followed by those at the references of the statement
behind the guard.  The latter are what that statement has alone exactly when it holds no
bounds, or nothing that could be taken for a section. -/
theorem sections_of_guarded (path : String) (lines : List String)
    {before after : List (List Token)} {statement condition guarded : List Token}
    (statements_eq : (Tokenized.ofLines lines).statements = before ++ statement :: after)
    (isGuarded : IsGuarded (withoutNumber statement) condition guarded) :
    checkSections (.ofLines path lines) =
        before.flatMap sectionsIn ++ (references condition ++ references guarded) ++
          after.flatMap sectionsIn ∧
      (references guarded = sectionsIn guarded ↔
        (holdsBounds guarded = true → stridedNames guarded = [])) := by
  have spelled : SpellsNames statement :=
    Tokenized.spellsNames_of_mem_statements lines (by rw [statements_eq]; simp)
  refine ⟨?_, references_eq_sectionsIn_iff isGuarded.isUnlabelled⟩
  have source_eq : (Source.ofLines path lines).tokenized = .ofLines lines := rfl
  rw [checkSections_eq, source_eq, statements_eq, List.flatMap_append, List.flatMap_cons,
    sectionsIn_of_isGuarded spelled rfl isGuarded]
  simp only [List.append_assoc]

/-- Behind a guard and its condition an assignment has the finding that it has alone. -/
theorem sections_of_guarded_assignment :
    let lines := ["if (b(k, :) > 0) a(n, 1:m) = 0"]
    let guarded := ((Tokenized.ofLines lines).statements.headD []).drop 11
    (holdsBounds guarded = true → stridedNames guarded = []) ∧
      checkSections (.ofLines "a.f90" lines) =
        [sectionFinding ⟨.identifier, "b", 1, 5, 1, 5⟩] ++ sectionsIn guarded := by
  intro lines guarded
  let condition : List Token := [⟨.identifier, "b", 1, 5, 1, 5⟩, ⟨.operator, "(", 1, 6, 1, 6⟩,
    ⟨.identifier, "k", 1, 7, 1, 7⟩, ⟨.operator, ",", 1, 8, 1, 8⟩, ⟨.operator, ":", 1, 10, 1, 10⟩,
    ⟨.operator, ")", 1, 11, 1, 11⟩, ⟨.operator, ">", 1, 13, 1, 13⟩, ⟨.number, "0", 1, 15, 1, 15⟩]
  let statement : List Token := ⟨.keyword, "if", 1, 1, 1, 2⟩ :: ⟨.operator, "(", 1, 4, 1, 4⟩ ::
    (condition ++ ⟨.operator, ")", 1, 16, 1, 16⟩ :: guarded)
  have statements_eq : (Tokenized.ofLines lines).statements = [] ++ statement :: [] := by
    decide +kernel
  have whole : withoutNumber statement = statement := by decide +kernel
  have isGuarded : IsGuarded (withoutNumber statement) condition guarded := by
    rw [whole]
    exact .intro (by decide) (by decide) (by decide) (by decide) (by decide +kernel)
  have noBounds : holdsBounds guarded = true → stridedNames guarded = [] := by decide +kernel
  obtain ⟨findings_eq, alone⟩ := sections_of_guarded "a.f90" lines statements_eq isGuarded
  have inside : references condition = [sectionFinding ⟨.identifier, "b", 1, 5, 1, 5⟩] := by
    decide +kernel
  refine ⟨noBounds, ?_⟩
  rw [findings_eq, alone.mpr noBounds, inside, List.flatMap_nil, List.nil_append,
    List.append_nil]

/-- The bounds in a guarded ALLOCATE are reported as a section, which they are not in the
statement alone. -/
theorem sections_of_guarded_allocate :
    let lines := ["if (ok) allocate(a(n, 1:m))"]
    let condition : List Token := [⟨.identifier, "ok", 1, 5, 1, 6⟩]
    let guarded := ((Tokenized.ofLines lines).statements.headD []).drop 4
    IsGuarded ((Tokenized.ofLines lines).statements.headD []) condition guarded ∧
      guarded.head? = some ⟨.keyword, "allocate", 1, 9, 1, 16⟩ ∧
      references condition ++ sectionsIn guarded = [] ∧
      checkSections (.ofLines "a.f90" lines) =
        [sectionFinding ⟨.identifier, "a", 1, 18, 1, 18⟩] := by
  intro lines condition guarded
  have whole : (Tokenized.ofLines lines).statements.headD [] = ⟨.keyword, "if", 1, 1, 1, 2⟩ ::
      ⟨.operator, "(", 1, 4, 1, 4⟩ :: (condition ++ ⟨.operator, ")", 1, 7, 1, 7⟩ :: guarded) := by
    decide +kernel
  refine ⟨?_, by decide +kernel, by decide +kernel, by decide +kernel⟩
  rw [whole]
  exact .intro (by decide) (by decide) (by decide) (by decide) (by decide +kernel)

end Rule

end FortranStyle
