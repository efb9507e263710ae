import FortranStyle.Proofs.Balance.ControlList
import FortranStyle.Proofs.Rendering.Clauses

/-!
# Type specifications

A type specification is the word of an intrinsic type, alone or with a selector in brackets or a
length behind a star; DOUBLE with a second word; or the word of a derived type with its name in
brackets.  It is read for what it is, whatever follows it but a bracket or a star.
-/

namespace FortranStyle

/-! ## Brackets in front -/

theorem Token.isFlat_of_kind_ne {token : Token} (other : token.kind ≠ .operator) :
    token.IsFlat where
  noOpening := by simp [isOpening, isOp, other]
  noClosing := by simp [isClosing, isOp, other]

theorem Token.isOp_of_kind_ne {token : Token} (other : token.kind ≠ .operator)
    (operator : String) : token.isOp operator = false := by
  simp [isOp, other]

theorem Token.isName_of_isOp {token : Token} {operator : String}
    (isOp : token.isOp operator = true) : token.isName = false := by
  simp only [Token.isOp, Bool.and_eq_true, beq_iff_eq] at isOp
  simp [isName, isOp.1]

namespace Bracket

variable {operator : String} {depth : Int}

/-- The search for an operator passes over what does not have it. -/
theorem findFrom?_append {tokens : List Token} (whole : findFrom? operator depth tokens = none)
    (rest : List Token) :
    findFrom? operator depth (tokens ++ rest) =
      (findFrom? operator (tokens.foldl depthAfter depth) rest).map (· + tokens.length) := by
  induction tokens generalizing depth with
  | nil => simp
  | cons token later ih =>
    rw [findFrom?] at whole
    split at whole
    · contradiction
    · rename_i other
      rw [Option.map_eq_none_iff] at whole
      rw [List.cons_append, findFrom?, if_neg other, ih whole, Option.map_map]
      rfl

/-- The top level is not found in a bracket. -/
theorem findFrom?_cons_of_ne (below : depth ≠ 0) (token : Token) (rest : List Token) :
    findFrom? operator depth (token :: rest) =
      (findFrom? operator (depthAfter depth token) rest).map (· + 1) := by
  have notTop : (depth == 0) = false := by simpa using below
  rw [findFrom?, notTop]
  rfl

theorem Balanced.findFrom?_eq_none {tokens : List Token} (balanced : Balanced tokens)
    (deep : 0 < depth) : findFrom? operator depth tokens = none := by
  induction balanced generalizing depth with
  | nil => rfl
  | flat isFlat _ ih =>
    rw [findFrom?_cons_of_ne (by omega), isFlat.depthAfter_eq, ih deep]
    rfl
  | pair opens within closes _ ihInner ihLater =>
    rw [findFrom?_cons_of_ne (by omega), depthAfter_of_isOpening opens,
      findFrom?_append (ihInner (by omega)), within.depth_eq, findFrom?_cons_of_ne (by omega),
      Token.depthAfter_of_isClosing closes, Int.add_sub_cancel, ihLater deep]
    rfl

/-- A balanced run without an operator outside brackets. -/
structure IsClear (operator : String) (tokens : List Token) : Prop where
  balanced : Balanced tokens
  whole : find? operator tokens = none

namespace IsClear

theorem nil (operator : String) : IsClear operator [] :=
  ⟨.nil, rfl⟩

theorem find?_append {tokens : List Token} (clear : IsClear operator tokens) (rest : List Token) :
    find? operator (tokens ++ rest) = (find? operator rest).map (· + tokens.length) := by
  rw [find?, findFrom?_append clear.whole, clear.balanced.depth_eq]
  rfl

theorem append {first second : List Token} (front : IsClear operator first)
    (back : IsClear operator second) : IsClear operator (first ++ second) := by
  refine ⟨front.balanced.append back.balanced, ?_⟩
  rw [front.find?_append, back.whole, Option.map_none]

theorem cons {token : Token} {rest : List Token} (isFlat : token.IsFlat)
    (other : token.isOp operator = false) (later : IsClear operator rest) :
    IsClear operator (token :: rest) := by
  refine ⟨.flat isFlat later.balanced, ?_⟩
  have whole := later.whole
  rw [find?] at whole ⊢
  rw [findFrom?, other, Bool.and_false, if_neg Bool.false_ne_true, isFlat.depthAfter_eq, whole]
  rfl

theorem of_name {token : Token} {rest : List Token} (isName : token.isName = true)
    (later : IsClear operator rest) : IsClear operator (token :: rest) :=
  .cons (Token.isFlat_of_isName isName) (Token.isOp_of_isName isName operator) later

theorem pair {opening closing : Token} {inner : List Token} (opens : opening.isOpening = true)
    (within : Balanced inner) (closes : closing.isClosing = true) :
    IsClear operator (opening :: (inner ++ [closing])) := by
  refine ⟨.pair opens within closes .nil, ?_⟩
  rw [find?, findFrom?, opens, Bool.not_true, Bool.and_false, Bool.false_and, Bool.false_and,
    if_neg Bool.false_ne_true, depthAfter_of_isOpening opens,
    findFrom?_append (within.findFrom?_eq_none (by omega)), within.depth_eq,
    findFrom?_cons_of_ne (by omega)]
  rfl

end IsClear

/-- A run in round brackets, and what stands in them. -/
inductive IsRound : List Token → List Token → Prop
  | intro {opening closing : Token} {inner : List Token} (opens : opening.isOp "(" = true)
      (within : Balanced inner) (closes : closing.isOp ")" = true) :
      IsRound (opening :: (inner ++ [closing])) inner

namespace IsRound

variable {bracket inner : List Token} (round : IsRound bracket inner)
include round

theorem exists_cons : ∃ opening more, bracket = opening :: more ∧ opening.isOp "(" = true := by
  cases round with
  | intro opens _ _ => exact ⟨_, _, rfl, opens⟩

theorem inside_append (rest : List Token) : inside (bracket ++ rest) = inner := by
  cases round with
  | intro opens within closes =>
    rw [List.cons_append, List.append_assoc, List.singleton_append,
      inside_eq (within.closingIndex?_pair (isOpening_of_isOp opens) (isClosing_of_isOp closes))]

theorem beyond_append (rest : List Token) : beyond (bracket ++ rest) = rest := by
  cases round with
  | intro opens within closes =>
    rw [List.cons_append, List.append_assoc, List.singleton_append,
      beyond_eq (within.closingIndex?_pair (isOpening_of_isOp opens) (isClosing_of_isOp closes))]

theorem isClear (operator : String) : IsClear operator bracket := by
  cases round with
  | intro opens within closes =>
    exact .pair (isOpening_of_isOp opens) within (isClosing_of_isOp closes)

end IsRound

end Bracket

open FortranStyle.Bracket (IsRound IsClear)

namespace Statement

/-! ## The specification -/

/-- A type specification, whose derived types are introduced by one of some words. -/
inductive IsTypeSpec (derived : List String) : List Token → Prop
  | plain {word : Token} (intrinsic : word.isAmong Vocabulary.intrinsicTypes = true)
      (single : word.isWord "double" = false) : IsTypeSpec derived [word]
  | selector {word : Token} {bracket inner : List Token}
      (intrinsic : word.isAmong Vocabulary.intrinsicTypes = true)
      (single : word.isWord "double" = false) (round : IsRound bracket inner) :
      IsTypeSpec derived (word :: bracket)
  | size {word star size : Token} (intrinsic : word.isAmong Vocabulary.intrinsicTypes = true)
      (single : word.isWord "double" = false) (isStar : star.isOp "*" = true)
      (isNumber : size.kind = .number) : IsTypeSpec derived [word, star, size]
  | length {word star : Token} {bracket inner : List Token}
      (intrinsic : word.isAmong Vocabulary.intrinsicTypes = true)
      (single : word.isWord "double" = false) (isStar : star.isOp "*" = true)
      (round : IsRound bracket inner) : IsTypeSpec derived (word :: star :: bracket)
  | double {word second : Token} (isDouble : word.isWord "double" = true)
      (isSecond : second.isAmong ["precision", "complex"] = true) :
      IsTypeSpec derived [word, second]
  | named {word : Token} {bracket inner : List Token} (isDerived : word.isAmong derived = true)
      (round : IsRound bracket inner) : IsTypeSpec derived (word :: bracket)

/-- What follows does not belong to the type specification. -/
def IsApart (rest : List Token) : Prop :=
  rest.head?.all (fun token => !token.isOp "(" && !token.isOp "*") = true

theorem isApart_of_isName {token : Token} (isName : token.isName = true) (rest : List Token) :
    IsApart (token :: rest) := by
  simp [IsApart, Token.isOp_of_isName isName]

theorem isApart_of_isOp {token : Token} {operator : String} (isOp : token.isOp operator = true)
    (noBracket : operator ≠ "(") (noStar : operator ≠ "*") (rest : List Token) :
    IsApart (token :: rest) := by
  simp [IsApart, Position.isOp_eq_false isOp, noBracket, noStar]

/-! ## What is read behind the name of a type -/

theorem rest_ofSuffix (name : String) {rest : List Token} (apart : IsApart rest) :
    (TypeSpec.ofSuffix name rest).rest = rest := by
  cases rest with
  | nil => rfl
  | cons token more =>
    simp only [IsApart, List.head?_cons, Option.all_some, Bool.and_eq_true,
      Bool.not_eq_true'] at apart
    unfold TypeSpec.ofSuffix
    dsimp only
    rw [if_neg (by simp [apart.1])]
    cases more with
    | nil => rfl
    | cons size more => simp [apart.2]

theorem rest_ofSuffix_round (name : String) {bracket inner : List Token}
    (round : IsRound bracket inner) (rest : List Token) :
    (TypeSpec.ofSuffix name (bracket ++ rest)).rest = rest := by
  have beyond_eq := round.beyond_append rest
  obtain ⟨opening, more, rfl, opens⟩ := round.exists_cons
  rw [List.cons_append] at beyond_eq ⊢
  unfold TypeSpec.ofSuffix
  dsimp only
  rw [if_pos opens]
  exact beyond_eq

section Star

variable {name : String} {star : Token} (isStar : star.isOp "*" = true)
  (intrinsic : Vocabulary.intrinsicTypes.contains name = true)
include isStar intrinsic

theorem rest_ofSuffix_size {size : Token} (noBracket : size.isOp "(" = false)
    (rest : List Token) : (TypeSpec.ofSuffix name (star :: size :: rest)).rest = rest := by
  unfold TypeSpec.ofSuffix
  simp only [Position.isOp_eq_false isStar (show "*" ≠ "(" by decide), isStar, intrinsic,
    noBracket, Bool.and_self, Bool.false_eq_true, if_true, if_false]

theorem rest_ofSuffix_length {bracket inner : List Token} (round : IsRound bracket inner)
    (rest : List Token) : (TypeSpec.ofSuffix name (star :: (bracket ++ rest))).rest = rest := by
  have beyond_eq := round.beyond_append rest
  obtain ⟨opening, more, rfl, opens⟩ := round.exists_cons
  rw [List.cons_append] at beyond_eq ⊢
  unfold TypeSpec.ofSuffix
  simp only [Position.isOp_eq_false isStar (show "*" ≠ "(" by decide), isStar, intrinsic, opens,
    Bool.and_self, Bool.false_eq_true, if_true, if_false]
  exact beyond_eq

end Star

/-! ## What is read of a specification -/

/-- A word other than DOUBLE is the name of a type by itself. -/
theorem typeSpec_of_single {first : Token} (single : first.lower ≠ "double")
    (rest : List Token) : typeSpec (first :: rest) = .ofSuffix first.lower rest := by
  cases rest with
  | nil => rfl
  | cons second more => simp [typeSpec, single]

/-- A word that is not in a list is spelled unlike all words in it. -/
theorem lower_ne_of_isWord {token : Token} {word : String} (isName : token.isName = true)
    (other : token.isWord word = false) : token.lower ≠ word := by
  simpa [Token.isWord, isName] using other

theorem exists_reads_of_isAmong {token : Token} {words : List String}
    (listed : token.isAmong words = true) : ∃ word ∈ words, token.Reads word := by
  obtain ⟨isName, member⟩ := Bool.and_eq_true_iff.mp listed
  exact ⟨token.lower, List.contains_iff_mem.mp member, isName, rfl⟩

theorem contains_lower_of_isAmong {token : Token} {words : List String}
    (listed : token.isAmong words = true) : words.contains token.lower = true :=
  (Bool.and_eq_true_iff.mp listed).2

namespace IsTypeSpec

variable {derived : List String} {spec : List Token} (isSpec : IsTypeSpec derived spec)
include isSpec

/-- A specification starts with the word of an intrinsic type, or with that of a derived type and
a bracket. -/
theorem exists_cons : ∃ first more, spec = first :: more ∧ ∃ word, first.Reads word ∧
    (word ∈ Vocabulary.intrinsicTypes ∨
      word ∈ derived ∧ more.head?.any (·.isOp "(") = true) := by
  have reads {first : Token} (listed : first.isAmong Vocabulary.intrinsicTypes = true)
      {more : List Token} : ∃ word, first.Reads word ∧ (word ∈ Vocabulary.intrinsicTypes ∨
        word ∈ derived ∧ more.head?.any (·.isOp "(") = true) := by
    obtain ⟨word, member, reads⟩ := exists_reads_of_isAmong listed
    exact ⟨word, reads, .inl member⟩
  cases isSpec with
  | plain intrinsic _ => exact ⟨_, _, rfl, reads intrinsic⟩
  | selector intrinsic _ _ => exact ⟨_, _, rfl, reads intrinsic⟩
  | size intrinsic _ _ _ => exact ⟨_, _, rfl, reads intrinsic⟩
  | length intrinsic _ _ _ => exact ⟨_, _, rfl, reads intrinsic⟩
  | double isDouble _ =>
    exact ⟨_, _, rfl, "double", Token.reads_of_isWord isDouble, .inl (by decide)⟩
  | named isDerived round =>
    obtain ⟨opening, more, rfl, opens⟩ := round.exists_cons
    obtain ⟨word, member, reads⟩ := exists_reads_of_isAmong isDerived
    exact ⟨_, _, rfl, word, reads, .inr ⟨member, opens⟩⟩

/-- A specification is read up to its end. -/
theorem rest_typeSpec (noDouble : "double" ∉ derived) {rest : List Token} (apart : IsApart rest) :
    (typeSpec (spec ++ rest)).rest = rest := by
  have plain {word : Token} (intrinsic : word.isAmong Vocabulary.intrinsicTypes = true)
      (single : word.isWord "double" = false) (more : List Token) :
      typeSpec (word :: more) = .ofSuffix word.lower more :=
    typeSpec_of_single (lower_ne_of_isWord (Bool.and_eq_true_iff.mp intrinsic).1 single) more
  cases isSpec with
  | plain intrinsic single =>
    rw [List.singleton_append, plain intrinsic single, rest_ofSuffix _ apart]
  | selector intrinsic single round =>
    rw [List.cons_append, plain intrinsic single, rest_ofSuffix_round _ round]
  | size intrinsic single isStar isNumber =>
    have noBracket := Token.isOp_of_kind_ne (by rw [isNumber]; decide) "("
    rw [List.cons_append, plain intrinsic single, List.cons_append, List.singleton_append,
      rest_ofSuffix_size isStar (contains_lower_of_isAmong intrinsic) noBracket]
  | length intrinsic single isStar round =>
    rw [List.cons_append, plain intrinsic single, List.cons_append,
      rest_ofSuffix_length isStar (contains_lower_of_isAmong intrinsic) round]
  | double isDouble isSecond =>
    have isTwo := (Token.reads_of_isWord isDouble).lower_eq
    have isName := (Bool.and_eq_true_iff.mp isSecond).1
    rw [List.cons_append, List.singleton_append, typeSpec]
    simp only [isTwo, isName, BEq.rfl, Bool.and_self, if_true]
    exact rest_ofSuffix _ apart
  | named isDerived round =>
    obtain ⟨word, listed, reads⟩ := exists_reads_of_isAmong isDerived
    have single : word ≠ "double" := fun same => noDouble (same ▸ listed)
    rw [List.cons_append, typeSpec_of_single (reads.lower_eq ▸ single),
      rest_ofSuffix_round _ round]

theorem typeSpecLength_eq (noDouble : "double" ∉ derived) {rest : List Token}
    (apart : IsApart rest) : typeSpecLength (spec ++ rest) = spec.length := by
  rw [typeSpecLength, isSpec.rest_typeSpec noDouble apart, List.length_append,
    Nat.add_sub_cancel]

/-- No sign stands in a specification outside brackets but a star. -/
theorem isClear {operator : String} (noStar : "*" ≠ operator) :
    IsClear operator spec := by
  have ofWord {word : Token} {words : List String} (listed : word.isAmong words = true)
      {rest : List Token} (later : IsClear operator rest) : IsClear operator (word :: rest) :=
    .of_name (Bool.and_eq_true_iff.mp listed).1 later
  have ofStar {star : Token} (isStar : star.isOp "*" = true) {rest : List Token}
      (later : IsClear operator rest) : IsClear operator (star :: rest) :=
    .cons (Token.isFlat_of_isOp isStar (by decide)) (Position.isOp_eq_false isStar noStar) later
  cases isSpec with
  | plain intrinsic _ => exact ofWord intrinsic (.nil _)
  | selector intrinsic _ round => exact ofWord intrinsic (round.isClear operator)
  | size intrinsic _ isStar isNumber =>
    have other : (TokenKind.number : TokenKind) ≠ .operator := by decide
    refine ofWord intrinsic (ofStar isStar (.cons (Token.isFlat_of_kind_ne ?_) ?_ (.nil _)))
    · rw [isNumber]
      exact other
    · exact Token.isOp_of_kind_ne (by rw [isNumber]; exact other) operator
  | length intrinsic _ isStar round =>
    exact ofWord intrinsic (ofStar isStar (round.isClear operator))
  | double isDouble isSecond =>
    exact .of_name (Token.reads_of_isWord isDouble).isName (ofWord isSecond (.nil _))
  | named isDerived round => exact ofWord isDerived (round.isClear operator)

end IsTypeSpec

end Statement

end FortranStyle
