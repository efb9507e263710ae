import FortranStyle.Proofs.Declaring.TypeSpec
import FortranStyle.Statement.Entity
import Mathlib.Data.List.Forall2

/-!
# Entities and attributes

Behind the name of an entity stand its dimension, its length and its initialisation, each of which
may be missing; an attribute is a word, perhaps with arguments in brackets.  A type declaration
statement is read for the attributes and the entities that are written in it.
-/

namespace FortranStyle.Statement

open FortranStyle.Bracket (Balanced IsRound IsClear IsItem Joins)

/-! ## Entities -/

/-- What stands in the declaration of an entity. -/
structure Entity where
  name : Token
  dimension : Option (List Token)
  initializer : Option (List Token)

/-- The dimension of an entity, which may be missing. -/
inductive IsDimension : List Token → Option (List Token) → Prop
  | nothing : IsDimension [] none
  | bounds {bracket inner : List Token} (round : IsRound bracket inner) :
      IsDimension bracket (some inner)

/-- The length of an entity, which may be missing: a star, and a number or a name, or a bracket. -/
inductive IsLength : List Token → Prop
  | nothing : IsLength []
  | size {star size : Token} (isStar : star.isOp "*" = true) (isSize : size.kind ≠ .operator) :
      IsLength [star, size]
  | round {star : Token} {bracket inner : List Token} (isStar : star.isOp "*" = true)
      (round : IsRound bracket inner) : IsLength (star :: bracket)

/-- The initialisation of an entity, which may be missing. -/
inductive IsInitializer : List Token → Option (List Token) → Prop
  | nothing : IsInitializer [] none
  | value {sign : Token} {item : List Token}
      (isSign : sign.isOp "=" = true ∨ sign.isOp "=>" = true)
      (isItem : IsItem item) : IsInitializer (sign :: item) (some item)

/-- The declaration of an entity. -/
inductive IsEntity : List Token → Entity → Prop
  | intro {name : Token} {bounds length value : List Token} {dimension initializer}
      (isName : name.isName = true) (isDimension : IsDimension bounds dimension)
      (isLength : IsLength length) (isInitializer : IsInitializer value initializer) :
      IsEntity (name :: (bounds ++ (length ++ value))) ⟨name, dimension, initializer⟩

/-! ## How entities are read -/

section Tail

variable (dimension : List Token)

theorem entityTail_bounds {bracket inner : List Token} (round : IsRound bracket inner)
    (rest : List Token) :
    entityTail dimension (bracket ++ rest) = entityTail inner rest := by
  have inside_eq := round.inside_append rest
  have beyond_eq := round.beyond_append rest
  obtain ⟨opening, more, rfl, opens⟩ := round.exists_cons
  rw [List.cons_append] at inside_eq beyond_eq ⊢
  rw [entityTail.eq_def]
  dsimp only
  rw [if_pos opens, inside_eq, beyond_eq]

theorem entityTail_star {star : Token} (isStar : star.isOp "*" = true) (length : Token)
    (more : List Token) :
    entityTail dimension (star :: length :: more) =
      if length.isOp "(" then entityTail dimension (Bracket.beyond (length :: more))
      else entityTail dimension more := by
  rw [entityTail.eq_def]
  simp only [Position.isOp_eq_false isStar (show "*" ≠ "(" by decide),
    Position.isOp_eq_false isStar (show "*" ≠ "[" by decide), isStar, Bool.false_eq_true,
    if_true, if_false]

theorem entityTail_length {length : List Token} (isLength : IsLength length) (rest : List Token) :
    entityTail dimension (length ++ rest) = entityTail dimension rest := by
  cases isLength with
  | nothing => rfl
  | size isStar isSize =>
    rw [List.cons_append, List.singleton_append, entityTail_star dimension isStar,
      if_neg (by simp [Token.isOp_of_kind_ne isSize])]
  | round isStar round =>
    have beyond_eq := round.beyond_append rest
    obtain ⟨opening, more, rfl, opens⟩ := round.exists_cons
    rw [List.cons_append] at beyond_eq
    rw [List.cons_append, List.cons_append, entityTail_star dimension isStar, if_pos opens,
      beyond_eq]

theorem entityTail_value {value : List Token} {initializer : Option (List Token)}
    (isInitializer : IsInitializer value initializer) :
    entityTail dimension value = (dimension, initializer.getD []) := by
  cases isInitializer with
  | nothing => rw [entityTail]; rfl
  | @value sign item isSign isItem =>
    have apart {operator : String} (first : "=" ≠ operator) (second : "=>" ≠ operator) :
        sign.isOp operator = false :=
      isSign.elim (Position.isOp_eq_false · first) (Position.isOp_eq_false · second)
    have either : (sign.isOp "=" || sign.isOp "=>") = true := by simpa using isSign
    rw [entityTail.eq_def]
    simp only [apart (show "=" ≠ "(" by decide) (show "=>" ≠ "(" by decide),
      apart (show "=" ≠ "[" by decide) (show "=>" ≠ "[" by decide),
      apart (show "=" ≠ "*" by decide) (show "=>" ≠ "*" by decide), either, Bool.false_eq_true,
      if_true, if_false, Option.getD_some]

end Tail

namespace IsEntity

variable {tokens : List Token} {entity : Entity} (isEntity : IsEntity tokens entity)
include isEntity

/-- Its own dimension counts for an entity before that of the attributes. -/
theorem entityTail_eq (dimension : List Token) :
    entityTail dimension tokens.tail =
      (entity.dimension.getD dimension, entity.initializer.getD []) := by
  cases isEntity with
  | intro _ isDimension isLength isInitializer =>
    rw [List.tail_cons]
    cases isDimension with
    | nothing =>
      rw [List.nil_append, entityTail_length dimension isLength,
        entityTail_value dimension isInitializer]
      rfl
    | bounds round =>
      rw [entityTail_bounds dimension round, entityTail_length _ isLength,
        entityTail_value _ isInitializer]
      rfl

/-- Nothing is not an initialisation. -/
theorem initializer_ne : entity.initializer ≠ some [] := by
  cases isEntity with
  | intro _ _ _ isInitializer =>
    cases isInitializer with
    | nothing => exact nofun
    | value _ isItem => exact fun bare => isItem.filled (Option.some.inj bare)

theorem exists_cons : ∃ rest, tokens = entity.name :: rest ∧ entity.name.isName = true := by
  cases isEntity with
  | intro isName _ _ _ => exact ⟨_, rfl, isName⟩

/-- An entity is one item of a list. -/
theorem isItem : IsItem tokens := by
  have noSign {sign : Token} {operator : String} (isSign : sign.isOp operator = true)
      (noBracket : operator ∉ ["(", "(/", "[", ")", "/)", "]"]) (noComma : operator ≠ ",")
      {rest : List Token} (later : IsClear "," rest) : IsClear "," (sign :: rest) :=
    .cons (Token.isFlat_of_isOp isSign noBracket) (Position.isOp_eq_false isSign noComma) later
  cases isEntity with
  | @intro name bounds length value dimension initializer isName isDimension isLength
      isInitializer =>
    have clearBounds : IsClear "," bounds := by
      cases isDimension with
      | nothing => exact .nil _
      | bounds round => exact round.isClear ","
    have clearLength : IsClear "," length := by
      cases isLength with
      | nothing => exact .nil _
      | size isStar isSize =>
        exact noSign isStar (by decide) (by decide) (.cons (Token.isFlat_of_kind_ne isSize)
          (Token.isOp_of_kind_ne isSize ",") (.nil _))
      | round isStar round => exact noSign isStar (by decide) (by decide) (round.isClear ",")
    have clearValue : IsClear "," value := by
      cases isInitializer with
      | nothing => exact .nil _
      | value isSign isItem =>
        have clear : IsClear "," _ := ⟨isItem.balanced, isItem.whole⟩
        rcases isSign with isSign | isSign
        · exact noSign isSign (by decide) (by decide) clear
        · exact noSign isSign (by decide) (by decide) clear
    have clear := clearBounds.append (clearLength.append clearValue)
    have whole := clear.of_name isName
    exact ⟨List.cons_ne_nil _ _, whole.balanced, whole.whole⟩

end IsEntity

/-! ## Attributes -/

/-- An attribute: a word in small letters, and what stands in the round brackets behind it. -/
structure Attribute where
  word : String
  arguments : Option (List Token)

/-- An attribute as it is written. -/
inductive IsAttribute : List Token → Attribute → Prop
  | bare {word : Token} (isName : word.isName = true) : IsAttribute [word] ⟨word.lower, none⟩
  | called {word : Token} {bracket inner : List Token} (isName : word.isName = true)
      (round : IsRound bracket inner) : IsAttribute (word :: bracket) ⟨word.lower, some inner⟩
  | square {word opening closing : Token} {inner : List Token} (isName : word.isName = true)
      (opens : opening.isOp "[" = true) (within : Balanced inner)
      (closes : closing.isOp "]" = true) :
      IsAttribute (word :: opening :: (inner ++ [closing])) ⟨word.lower, none⟩

/-- The attributes of a statement, each behind a comma. -/
inductive IsAttributes : List Token → List Attribute → Prop
  | nothing : IsAttributes [] []
  | more {comma : Token} {item list : List Token} {entry : Attribute}
      {attributes : List Attribute} (isComma : comma.isOp "," = true)
      (isAttribute : IsAttribute item entry) (others : IsAttributes list attributes) :
      IsAttributes (comma :: (item ++ list)) (entry :: attributes)

/-- What stands in the brackets of the last attribute of this word that has any. -/
def given? (word : String) (attributes : List Attribute) : Option (List Token) :=
  (attributes.filterMap fun entry =>
    if entry.word = word then entry.arguments else none).getLast?

theorem given?_cons (word : String) (entry : Attribute) (rest : List Attribute) :
    given? word (entry :: rest) =
      (given? word rest).or (if entry.word = word then entry.arguments else none) := by
  rw [given?, given?, List.filterMap_cons]
  cases if entry.word = word then entry.arguments else none with
  | none => rw [Option.or_none]
  | some arguments =>
    rw [List.getLast?_cons]
    cases (rest.filterMap _).getLast? <;> rfl

theorem IsAttribute.isClear {item : List Token} {entry : Attribute}
    (isAttribute : IsAttribute item entry) (operator : String) : IsClear operator item := by
  cases isAttribute with
  | bare isName => exact .of_name isName (.nil _)
  | called isName round => exact .of_name isName (round.isClear operator)
  | square isName opens within closes =>
    exact .of_name isName (.pair (by simp [Token.isOpening, opens]) within
      (by simp [Token.isClosing, closes]))

theorem IsAttribute.isItem {item : List Token} {entry : Attribute}
    (isAttribute : IsAttribute item entry) : IsItem item := by
  have clear := isAttribute.isClear ","
  refine ⟨?_, clear.balanced, clear.whole⟩
  cases isAttribute <;> exact List.cons_ne_nil _ _

/-- One attribute is added for what it says. -/
theorem IsAttribute.add_eq {item : List Token} {entry : Attribute}
    (isAttribute : IsAttribute item entry) (before : Attributes) :
    before.add item =
      { words := before.words ++ [entry.word]
        intent := if entry.word = "intent" then
          (entry.arguments.map Attributes.intentOf).or before.intent else before.intent
        dimension := if entry.word = "dimension" then
          entry.arguments.getD before.dimension else before.dimension } := by
  cases isAttribute with
  | bare isName => simp [Attributes.add, isName]
  | called isName round =>
    have inside_eq := round.inside_append []
    rw [List.append_nil] at inside_eq
    obtain ⟨opening, more, rfl, opens⟩ := round.exists_cons
    simp [Attributes.add, isName, opens, inside_eq]
  | square isName opens =>
    simp [Attributes.add, isName, Position.isOp_eq_false opens (show "[" ≠ "(" by decide)]

/-- What attributes say together; of several with the same word the last one with arguments
counts. -/
def written (attributes : List Attribute) : Attributes where
  words := attributes.map (·.word)
  intent := (given? "intent" attributes).map Attributes.intentOf
  dimension := (given? "dimension" attributes).getD []

theorem ofItems_eq {items : List (List Token)} {attributes : List Attribute}
    (each : List.Forall₂ IsAttribute items attributes) :
    Attributes.ofItems items = written attributes := by
  have run (before : Attributes) : items.foldl Attributes.add before =
      { words := before.words ++ attributes.map (·.word)
        intent := ((given? "intent" attributes).map Attributes.intentOf).or before.intent
        dimension := (given? "dimension" attributes).getD before.dimension } := by
    induction each generalizing before with
    | nil => simp [given?]
    | @cons item entry rest others isAttribute _ ih =>
      rw [List.foldl_cons, isAttribute.add_eq, ih, given?_cons, given?_cons]
      dsimp only
      congr 1
      · simp
      · split <;> cases given? "intent" others <;> simp
      · split <;> cases given? "dimension" others <;> simp
  exact (run .empty).trans (by simp [written, Attributes.empty])

namespace IsAttributes

variable {list : List Token} {attributes : List Attribute}
  (isAttributes : IsAttributes list attributes)
include isAttributes

/-- No double colon stands among attributes outside brackets. -/
theorem isClear : IsClear "::" list := by
  induction isAttributes with
  | nothing => exact .nil _
  | more isComma isAttribute _ ih =>
    exact .cons (Token.isFlat_of_isOp isComma (by decide))
      (Position.isOp_eq_false isComma (by decide)) ((isAttribute.isClear "::").append ih)

/-- Attributes are the items of a list behind a comma. -/
theorem listed : list = [] ∧ attributes = [] ∨
    ∃ comma more items, list = comma :: more ∧ comma.isOp "," = true ∧ Joins items more ∧
      List.Forall₂ IsAttribute items attributes := by
  induction isAttributes with
  | nothing => exact .inl ⟨rfl, rfl⟩
  | @more comma item list entry attributes isComma isAttribute _ ih =>
    rcases ih with ⟨rfl, rfl⟩ | ⟨next, more, items, rfl, isNext, joins, each⟩
    · exact .inr ⟨comma, item ++ [], [item], rfl, isComma,
        (List.append_nil item).symm ▸ .one item isAttribute.isItem, .cons isAttribute .nil⟩
    · exact .inr ⟨comma, item ++ next :: more, item :: items, rfl, isComma,
        .more isAttribute.isItem isNext joins, .cons isAttribute each⟩

/-- Attributes are read when there are any in front of the double colon. -/
theorem read_eq (before : Nat) (rest : List Token) :
    (if before < list.length + before && (list ++ rest).head?.any (·.isOp ",") then
        Attributes.ofItems (Bracket.items (list.drop 1))
      else .empty) = written attributes := by
  obtain ⟨rfl, rfl⟩ | ⟨comma, more, items, rfl, isComma, joins, each⟩ := isAttributes.listed
  · simp [written, given?, Attributes.empty]
  · rw [if_pos (by simp [isComma]), List.drop_one, List.tail_cons, joins.items_eq, ofItems_eq each]

end IsAttributes

/-! ## Statements -/

/-- Entities with commas between them. -/
inductive IsListing : List Token → List Entity → Prop
  | one {run : List Token} {entity : Entity} (isEntity : IsEntity run entity) :
      IsListing run [entity]
  | more {run list : List Token} {comma : Token} {entity : Entity} {entities : List Entity}
      (isEntity : IsEntity run entity) (isComma : comma.isOp "," = true)
      (others : IsListing list entities) : IsListing (run ++ comma :: list) (entity :: entities)

theorem IsListing.exists_joins {listing : List Token} {entities : List Entity}
    (isListing : IsListing listing entities) :
    ∃ runs, Joins runs listing ∧ List.Forall₂ IsEntity runs entities := by
  induction isListing with
  | one isEntity => exact ⟨_, .one _ isEntity.isItem, .cons isEntity .nil⟩
  | more isEntity isComma _ ih =>
    obtain ⟨runs, joins, each⟩ := ih
    exact ⟨_, .more isEntity.isItem isComma joins, .cons isEntity each⟩

/-- A type declaration statement with a double colon. -/
inductive IsTypeDeclaration : List Token → List Attribute → List Entity → Prop
  | intro {spec list listing : List Token} {colons : Token} {attributes : List Attribute}
      {entities : List Entity} (isSpec : IsTypeSpec ["type", "class", "procedure"] spec)
      (isAttributes : IsAttributes list attributes) (isColons : colons.isOp "::" = true)
      (isListing : IsListing listing entities) :
      IsTypeDeclaration (spec ++ (list ++ colons :: listing)) attributes entities

/-- A declaration says what is written of its entity and what the attributes say. -/
structure Declares (attributes : List Attribute) (entity : Entity) (declaration : Declaration) :
    Prop where
  token_eq : declaration.token = entity.name
  name_eq : declaration.name = entity.name.lower
  dimension_eq : declaration.dimension =
    entity.dimension.getD ((given? "dimension" attributes).getD [])
  initializer_eq : declaration.initializer = entity.initializer.getD []
  isInitialized_iff : declaration.isInitialized = true ↔ entity.initializer ≠ none
  has_iff (word : String) : declaration.has word = true ↔ word ∈ attributes.map (·.word)
  intent_eq : declaration.intent = (given? "intent" attributes).map Attributes.intentOf

namespace IsTypeDeclaration

variable {tokens : List Token} {attributes : List Attribute} {entities : List Entity}

/-- The parts of a type declaration statement are found where they stand. -/
theorem typeDeclaration_eq (form : IsTypeDeclaration tokens attributes entities) :
    ∃ runs, List.Forall₂ IsEntity runs entities ∧
      typeDeclaration tokens = ⟨typeSpec tokens, written attributes, runs⟩ := by
  cases form with
  | @intro spec list listing colons attributes entities isSpec isAttributes isColons isListing =>
    obtain ⟨runs, joins, each⟩ := isListing.exists_joins
    refine ⟨runs, each, ?_⟩
    have apart : IsApart (list ++ colons :: listing) := by
      cases isAttributes with
      | nothing => exact isApart_of_isOp isColons (by decide) (by decide) _
      | more isComma _ _ => exact isApart_of_isOp isComma (by decide) (by decide) _
    have rest_eq := isSpec.rest_typeSpec (by decide) apart
    have length_eq := isSpec.typeSpecLength_eq (by decide) apart
    have here : Bracket.find? "::" (colons :: listing) = some 0 := by
      have flat := Token.isFlat_of_isOp isColons (by decide)
      simp [Bracket.find?, Bracket.findFrom?, flat.noOpening, flat.noClosing, isColons]
    have colons_eq : Bracket.find? "::" (spec ++ (list ++ colons :: listing)) =
        some (list.length + spec.length) := by
      rw [(isSpec.isClear (by decide)).find?_append, isAttributes.isClear.find?_append, here]
      simp
    have front_eq : ((spec ++ (list ++ colons :: listing)).take
        (list.length + spec.length)).drop (spec.length + 1) = list.drop 1 := by
      rw [Nat.add_comm list.length, List.take_length_add_append, List.take_left,
        List.drop_length_add_append]
    have behind_eq : (spec ++ (list ++ colons :: listing)).drop
        (list.length + spec.length + 1) = listing := by
      rw [Nat.add_comm list.length, Nat.add_assoc, List.drop_length_add_append,
        List.drop_length_add_append]
      rfl
    unfold typeDeclaration
    dsimp only
    rw [colons_eq, length_eq, rest_eq]
    dsimp only
    rw [front_eq, behind_eq, isAttributes.read_eq, joins.items_eq]

/-- Every entity of a statement is declared as it is written, and nothing else is. -/
theorem declarations_eq (form : IsTypeDeclaration tokens attributes entities) :
    List.Forall₂ (Declares attributes) entities (typeDeclaration tokens).declarations := by
  obtain ⟨runs, each, statement_eq⟩ := form.typeDeclaration_eq
  rw [statement_eq, TypeDeclaration.declarations]
  dsimp only
  clear form statement_eq
  induction each with
  | nil => exact .nil
  | @cons run entity runs entities isEntity _ ih =>
    have filled := isEntity.initializer_ne
    obtain ⟨rest, rfl, isName⟩ := isEntity.exists_cons
    have tail_eq := isEntity.entityTail_eq (written attributes).dimension
    rw [List.tail_cons] at tail_eq
    rw [List.filterMap_cons, TypeDeclaration.declare?, if_pos isName]
    simp only [tail_eq]
    refine .cons ?_ ih
    exact
      { token_eq := rfl
        name_eq := rfl
        dimension_eq := rfl
        initializer_eq := rfl
        isInitialized_iff := by
          rw [Declaration.isInitialized]
          cases value_eq : entity.initializer with
          | none => simp
          | some value =>
            rw [value_eq] at filled
            simpa using filled
        has_iff := fun word => List.contains_iff_mem
        intent_eq := rfl }

end IsTypeDeclaration

end FortranStyle.Statement
