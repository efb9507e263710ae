import FortranStyle.Program.Procedure
import FortranStyle.Proofs.Balance.Balanced
import FortranStyle.Proofs.Reading.Name

/-!
# Control lists

A READ or WRITE statement has a control list of specifiers with commas between them.  The
unit is read off the first specifier: off what follows `UNIT=` when that stands there, and
off the whole specifier otherwise, so a specifier with another keyword is taken for the
unit.
-/

namespace FortranStyle

open FortranStyle.Bracket (Balanced)

/-! ## Items and lists -/

namespace Bracket

theorem Balanced.append {first second : List Token} (balanced : Balanced first)
    (later : Balanced second) : Balanced (first ++ second) := by
  induction balanced with
  | nil => exact later
  | flat isFlat _ ih => exact .flat isFlat ih
  | pair opens within closes _ _ ih =>
    rw [List.cons_append, List.append_assoc, List.cons_append]
    exact .pair opens within closes ih

/-- An item of a list: a balanced run, not empty, without a comma outside brackets. -/
structure IsItem (item : List Token) : Prop where
  filled : item ≠ []
  balanced : Balanced item
  whole : find? "," item = none

/-- Items, and the list of them with commas between. -/
inductive Joins : List (List Token) → List Token → Prop
  | one (item : List Token) (isItem : IsItem item) : Joins [item] item
  | more {item list : List Token} {comma : Token} {items : List (List Token)}
      (isItem : IsItem item) (isComma : comma.isOp "," = true) (others : Joins items list) :
      Joins (item :: items) (item ++ comma :: list)

namespace Joins

variable {items : List (List Token)} {list : List Token} (joins : Joins items list)
include joins

theorem balanced : Balanced list := by
  induction joins with
  | one _ isItem => exact isItem.balanced
  | more isItem isComma _ ih =>
    exact isItem.balanced.append (.flat (Token.isFlat_of_isOp isComma (by decide)) ih)

/-- A list is cut into its items. -/
theorem items_eq : Bracket.items list = items := by
  induction joins with
  | one _ isItem => exact split_eq_singleton isItem.whole
  | more isItem isComma _ ih =>
    rw [Bracket.items, isItem.balanced.split_append_cons isItem.whole
      (Token.isFlat_of_isOp isComma (by decide)) isComma, ← ih]
    rfl

theorem exists_cons : ∃ first others, items = first :: others ∧ IsItem first := by
  cases joins with
  | one _ isItem => exact ⟨_, _, rfl, isItem⟩
  | more isItem _ _ => exact ⟨_, _, rfl, isItem⟩

end Joins

end Bracket

namespace Statement

/-! ## Specifiers -/

/-- Whether a specifier starts with a keyword and an equals sign. -/
def hasKeyword : List Token → Bool
  | keyword :: sign :: _ => keyword.isName && sign.isOp "="
  | _ => false

/-- What follows `UNIT=`. -/
def givenUnit? : List Token → Option (List Token)
  | keyword :: sign :: value :: more =>
      if keyword.isWord "unit" && sign.isOp "=" then some (value :: more) else none
  | _ => none

/-- The specifier gives the unit by its keyword. -/
def givesUnit (specifier : List Token) : Bool :=
  (givenUnit? specifier).isSome

/-- The unit of a control list: its first specifier when that has no keyword, and what
follows `UNIT=` wherever that stands. -/
def controlUnit? (specifiers : List (List Token)) : Option (List Token) :=
  match specifiers with
  | [] => none
  | first :: others =>
      if hasKeyword first then (first :: others).findSome? givenUnit? else some first

/-- What is taken for the unit is what follows `UNIT=`, or else the whole specifier. -/
theorem unitExpression_eq (specifier : List Token) :
    unitExpression specifier = (givenUnit? specifier).getD specifier := by
  rcases specifier with _ | ⟨keyword, _ | ⟨sign, _ | ⟨value, more⟩⟩⟩
  · rfl
  · rfl
  · rfl
  · rw [unitExpression, givenUnit?]
    split <;> rfl

theorem hasKeyword_of_givesUnit {specifier : List Token} (gives : givesUnit specifier = true) :
    hasKeyword specifier = true := by
  unfold givesUnit givenUnit? at gives
  split at gives
  · split at gives
    · rename_i isUnit
      simp only [Token.isWord, Bool.and_eq_true] at isUnit
      simp [hasKeyword, isUnit]
    · contradiction
  · contradiction

/-- The spelling of a specifier with a keyword has an equals sign. -/
theorem equals_mem_spelling {specifier : List Token} (keyword : hasKeyword specifier = true) :
    '=' ∈ (spelling specifier).toList := by
  unfold hasKeyword at keyword
  split at keyword
  · rename_i word sign more
    have sign_eq : sign.text = "=" := by simp_all [Token.isOp]
    have small : '='.toLower = '=' := by decide
    rw [spelling, Text.lower, String.toList_ofList, ← small]
    refine Text.toLower_mem_lowerChars (by decide) ?_
    simp [String.toList_join, sign_eq]
  · contradiction

end Statement

open FortranStyle.Bracket (Joins)

theorem Token.isWord_congr {token other : Token} (same : token.face = other.face)
    (word : String) : token.isWord word = other.isWord word := by
  obtain ⟨kind_eq, text_eq⟩ := Prod.mk.inj same
  rw [isWord, isWord, isName, isName, lower, lower, kind_eq, text_eq]

namespace Statement

/-! ## Specifiers that read alike -/

section Face

variable {specifier specifier' : List Token}
  (same : specifier.map Token.face = specifier'.map Token.face)
include same

theorem spelling_congr : spelling specifier = spelling specifier' := by
  have texts_eq := congrArg (List.map Prod.snd) same
  rw [List.map_map, List.map_map] at texts_eq
  rw [spelling, spelling]
  exact congrArg (fun texts => Text.lower (String.join texts)) texts_eq

theorem map_givenUnit?_congr :
    (givenUnit? specifier).map (List.map Token.face) =
      (givenUnit? specifier').map (List.map Token.face) := by
  rcases specifier with _ | ⟨keyword, _ | ⟨sign, _ | ⟨value, more⟩⟩⟩ <;>
    rcases specifier' with _ | ⟨keyword', _ | ⟨sign', _ | ⟨value', more'⟩⟩⟩ <;>
    simp only [List.map_cons, List.map_nil, List.cons.injEq, reduceCtorEq, and_false] at same
  · rfl
  · rfl
  · rfl
  · obtain ⟨keyword_eq, sign_eq, value_eq, more_eq⟩ := same
    rw [givenUnit?, givenUnit?, Token.isWord_congr keyword_eq, Token.isOp_congr sign_eq]
    split
    · rw [Option.map_some, Option.map_some, List.map_cons, List.map_cons, value_eq, more_eq]
    · rfl

theorem hasKeyword_congr : hasKeyword specifier = hasKeyword specifier' := by
  rcases specifier with _ | ⟨keyword, _ | ⟨sign, more⟩⟩ <;>
    rcases specifier' with _ | ⟨keyword', _ | ⟨sign', more'⟩⟩ <;>
    simp only [List.map_cons, List.map_nil, List.cons.injEq, reduceCtorEq, and_false] at same
  · rfl
  · rfl
  · obtain ⟨keyword_eq, sign_eq, -⟩ := same
    have kind_eq : keyword.kind = keyword'.kind := congrArg Prod.fst keyword_eq
    rw [hasKeyword, hasKeyword, Token.isName, Token.isName, kind_eq, Token.isOp_congr sign_eq]

theorem givesUnit_congr : givesUnit specifier = givesUnit specifier' := by
  have same_isSome := congrArg Option.isSome (map_givenUnit?_congr same)
  rwa [Option.isSome_map, Option.isSome_map] at same_isSome

theorem spelling_unitExpression_congr :
    spelling (unitExpression specifier) = spelling (unitExpression specifier') := by
  refine spelling_congr ?_
  have given := map_givenUnit?_congr same
  rw [unitExpression_eq, unitExpression_eq]
  cases found : givenUnit? specifier <;> cases found' : givenUnit? specifier' <;>
    rw [found, found'] at given
  · exact same
  · contradiction
  · contradiction
  · exact Option.some.inj given

end Face

/-! ## Statements -/

/-- A READ or WRITE statement with a control list of these specifiers, which assigns to
nothing. -/
inductive IsTransfer : List Token → List (List Token) → Prop
  | intro {word opening closing : Token} {specifiers : List (List Token)} {list rest : List Token}
      (isWord : word.isAmong ["read", "write"] = true) (opens : opening.isOp "(" = true)
      (joins : Joins specifiers list) (closes : closing.isOp ")" = true)
      (noAssignment : leadsToAssignment rest = false) :
      IsTransfer (word :: opening :: (list ++ closing :: rest)) specifiers

/-- The unit is read off the first specifier. -/
theorem IsTransfer.unit?_eq {statement first : List Token} {others : List (List Token)}
    (transfer : IsTransfer statement (first :: others)) :
    unit? statement = some (spelling (unitExpression first)) := by
  cases transfer with
  | @intro word opening closing _ list rest _ opens joins closes _ =>
    have within := joins.balanced.closingIndex?_pair (Bracket.isOpening_of_isOp opens)
      (Bracket.isClosing_of_isOp closes)
    obtain ⟨_, _, ⟨⟩, isItem⟩ := joins.exists_cons
    rw [unit?, Position.isOp_eq_false opens (by decide), if_neg Bool.false_ne_true, if_pos opens,
      Bracket.inside_eq within, joins.items_eq]
    cases first with
    | nil => exact absurd rfl isItem.filled
    | cons token more => rfl

theorem IsTransfer.exists_cons {statement : List Token} {specifiers : List (List Token)}
    (transfer : IsTransfer statement specifiers) :
    ∃ first others, specifiers = first :: others := by
  cases transfer with
  | intro _ _ joins _ _ =>
    obtain ⟨first, others, specifiers_eq, -⟩ := joins.exists_cons
    exact ⟨first, others, specifiers_eq⟩

/-- What a READ or WRITE statement does. -/
theorem IsTransfer.action?_eq {statement : List Token} {specifiers : List (List Token)}
    (transfer : IsTransfer statement specifiers) :
    ∃ word, statement.head? = some word ∧ word.lower ∈ ["read", "write"] ∧
      action? statement = some (.effect word.lower word (unit? statement)) := by
  cases transfer with
  | @intro word opening closing _ list rest isWord opens joins closes noAssignment =>
    have within := joins.balanced.closingIndex?_pair (Bracket.isOpening_of_isOp opens)
      (Bracket.isClosing_of_isOp closes)
    obtain ⟨isName, listed⟩ := Bool.and_eq_true_iff.mp isWord
    have lower_mem : word.lower ∈ ["read", "write"] := List.contains_iff_mem.mp listed
    have reads : word.Reads word.lower := ⟨isName, rfl⟩
    have inert : leadsToAssignment (opening :: (list ++ closing :: rest)) = false := by
      rw [leadsToAssignment.eq_def]
      simp only [opens, if_true, Bracket.beyond_eq within, noAssignment]
    have noTarget : assignmentTarget? (word :: opening :: (list ++ closing :: rest)) = none := by
      rw [assignmentTarget?, inert, Bool.and_false, if_neg Bool.false_ne_true]
    refine ⟨word, rfl, lower_mem, ?_⟩
    rw [action?, noTarget]
    rw [List.mem_pair] at lower_mem
    rcases lower_mem with lower_eq | lower_eq <;>
      simp [isGuardWord, reads.isAmong_eq, reads.isWord_eq, lower_eq, Vocabulary.effectWords]

end Statement

/-! ## Side effects -/

namespace Procedure

/-- A READ or WRITE statement is not reported exactly when its unit is a local name. -/
theorem statementEffect?_eq_none_iff {procedure : Procedure} {words unit : String} {token : Token}
    (transfers : words ∈ ["read", "write"]) :
    procedure.statementEffect? (words, token, some unit) = none ↔
      unit ∈ procedure.localNames := by
  simp only [statementEffect?, List.contains_iff_mem.mpr transfers, Bool.true_and, Option.any_some,
    List.contains_iff_mem]
  split <;> simp_all

/-- The procedure with other executable statements. -/
def doing (procedure : Procedure) (actions : List Statement.Action) : Procedure :=
  { procedure with actions }

/-- What is reported of a statement depends on the declarations alone. -/
theorem sideEffects_doing (procedure : Procedure) (actions : List Statement.Action)
    (host : List String) :
    (procedure.doing actions).sideEffects host =
      (procedure.doing actions).assignments.filterMap (procedure.assignmentEffect? host) ++
        (procedure.doing actions).effects.filterMap procedure.statementEffect? :=
  rfl

section Insert

variable (procedure : Procedure) (host : List String) (words : String) (token : Token)
  (unit : Option String) (before after : List Statement.Action)

/-- A statement adds what is reported of it. -/
theorem sideEffects_insert :
    (procedure.doing (before ++ .effect words token unit :: after)).sideEffects host =
      (procedure.doing (before ++ after)).assignments.filterMap
          (procedure.assignmentEffect? host) ++
        (procedure.doing before).effects.filterMap procedure.statementEffect? ++
        (procedure.statementEffect? (words, token, unit)).toList ++
        (procedure.doing after).effects.filterMap procedure.statementEffect? := by
  have assignments_eq :
      (procedure.doing (before ++ .effect words token unit :: after)).assignments =
      (procedure.doing (before ++ after)).assignments := by
    simp [doing, assignments]
  have effects_eq : (procedure.doing (before ++ .effect words token unit :: after)).effects =
      (procedure.doing before).effects ++ ([(words, token, unit)] ++
        (procedure.doing after).effects) := by
    simp [doing, effects]
  have single : [(words, token, unit)].filterMap procedure.statementEffect? =
      (procedure.statementEffect? (words, token, unit)).toList := by
    cases found : procedure.statementEffect? (words, token, unit) <;> simp [found]
  rw [sideEffects_doing, assignments_eq, effects_eq, List.filterMap_append, List.filterMap_append,
    single, List.append_assoc, List.append_assoc]

/-- A statement adds nothing exactly when it is not reported. -/
theorem sideEffects_insert_eq_iff :
    (procedure.doing (before ++ .effect words token unit :: after)).sideEffects host =
        (procedure.doing (before ++ after)).sideEffects host ↔
      procedure.statementEffect? (words, token, unit) = none := by
  have effects_eq : (procedure.doing (before ++ after)).effects =
      (procedure.doing before).effects ++ (procedure.doing after).effects := by
    simp [doing, effects]
  rw [sideEffects_insert, sideEffects_doing, effects_eq, List.filterMap_append,
    ← List.append_assoc, List.append_left_inj, List.append_right_eq_self]
  exact Option.toList_eq_nil_iff

end Insert

end Procedure

end FortranStyle
