import FortranStyle.Program.Scan
import FortranStyle.Proofs.Transcription.Token

/-!
# Copies of statements

Every reader of statements finds in a copied statement the copy of what it finds
in the statement: the same words, numbers and decisions, and the copies of the
tokens.
-/

namespace FortranStyle.Transcription

open Statement

variable (copy : Transcription)

/-! ## Boundaries -/

@[simp]
theorem startsBracket_tokens (tokens : List Token) :
    startsBracket (tokens.map copy.token) = startsBracket tokens := by
  cases tokens <;> simp (disch := decide) [startsBracket]

@[simp]
theorem isOneBracket_tokens (tokens : List Token) :
    isOneBracket (tokens.map copy.token) = isOneBracket tokens := by
  simp [isOneBracket]

@[simp]
theorem leadsToAssignment_tokens (tokens : List Token) :
    leadsToAssignment (tokens.map copy.token) = leadsToAssignment tokens := by
  fun_induction leadsToAssignment tokens with
  | case1 => simp [leadsToAssignment]
  | case2 token rest opens ih =>
    rw [leadsToAssignment.eq_def, List.map_cons]
    simp (disch := decide) only [isOp_token, opens, if_true]
    rw [← List.map_cons, beyond_tokens, ih]
  | case3 token opens percent component rest ih =>
    rw [leadsToAssignment.eq_def, List.map_cons, List.map_cons]
    simp (disch := decide) [opens, percent, ih]
  | case4 token opens percent =>
    rw [leadsToAssignment.eq_def, List.map_cons]
    simp (disch := decide) [opens, percent]
  | case5 token rest opens percent =>
    rw [leadsToAssignment.eq_def, List.map_cons]
    simp (disch := decide) [opens, percent]

@[simp]
theorem assignmentTarget?_tokens (tokens : List Token) :
    assignmentTarget? (tokens.map copy.token) = (assignmentTarget? tokens).map copy.token := by
  cases tokens with
  | nil => rfl
  | cons token rest =>
    simp only [List.map_cons, assignmentTarget?, isName_token, leadsToAssignment_tokens]
    split <;> rfl

/-- Copy a closing statement. -/
def closer (closer : Closer) : Closer :=
  { closer with trailing := closer.trailing.map copy.token }

@[simp]
theorem joinedEnd?_token (token : Token) : joinedEnd? (copy.token token) = joinedEnd? token := by
  simp [joinedEnd?]

@[simp]
theorem closer?_tokens (tokens : List Token) :
    closer? (tokens.map copy.token) = (closer? tokens).map copy.closer := by
  cases tokens with
  | nil => rfl
  | cons first rest =>
    simp only [List.map_cons, closer?, joinedEnd?_token, isWord_token]
    split
    · rfl
    · split
      · cases rest with
        | nil => rfl
        | cons second trailing => simp [closer, Function.comp_def]
      · rfl

@[simp]
theorem construct?_tokens (tokens : List Token) :
    construct? (tokens.map copy.token) = construct? tokens := by
  cases tokens with
  | nil => rfl
  | cons first rest =>
    simp (disch := decide) [construct?, Option.any_map, Option.all_map]

@[simp]
theorem isDivider_tokens (kind : BlockKind) (tokens : List Token) :
    isDivider kind (tokens.map copy.token) = isDivider kind tokens := by
  simp [isDivider, Option.map_map, Function.comp_def]

/-! ## Control lists and name lists -/

@[simp]
theorem unitExpression_tokens (item : List Token) :
    unitExpression (item.map copy.token) = (unitExpression item).map copy.token := by
  rcases item with _ | ⟨keyword, _ | ⟨sign, _ | ⟨value, more⟩⟩⟩
  · rfl
  · rfl
  · rfl
  · simp (disch := decide) only [List.map_cons, unitExpression, isWord_token, isOp_token]
    split <;> rfl

@[simp]
theorem unit?_tokens (tokens : List Token) : unit? (tokens.map copy.token) = unit? tokens := by
  rcases tokens with _ | ⟨first, _ | ⟨second, rest⟩⟩
  · rfl
  · rfl
  · simp (disch := decide) only [List.map_cons, unit?, isOp_token]
    rw [← List.map_cons, inside_tokens, items_tokens]
    rcases Bracket.items (Bracket.inside (second :: rest)) with _ | ⟨_ | ⟨token, more⟩, items⟩
    · rfl
    · rfl
    · simp only [List.map_cons]
      rw [← List.map_cons, unitExpression_tokens, spelling_tokens]

@[simp]
theorem localName_tokens (item : List Token) :
    localName (item.map copy.token) = localName item := by
  simp (disch := decide) [localName, ← List.map_take]

@[simp]
theorem listedNames_tokens (tokens : List Token) :
    listedNames (tokens.map copy.token) = (listedNames tokens).map copy.token := by
  simp (disch := decide) only [listedNames, find?_tokens, ← List.map_drop, items_tokens,
    List.filterMap_map, List.map_filterMap]
  congr 1
  funext item
  cases item with
  | nil => rfl
  | cons token rest => by_cases name : token.isName = true <;> simp [name]

@[simp]
theorem unlabelled_tokens (tokens : List Token) :
    unlabelled (tokens.map copy.token) = (unlabelled tokens).map copy.token := by
  cases tokens with
  | nil => rfl
  | cons label rest =>
    by_cases other : label.kind = .number
    · rcases rest with _ | ⟨name, _ | ⟨colon, _ | ⟨first, rest⟩⟩⟩
      · simp [unlabelled, other]
      · simp [unlabelled, other]
      · simp [unlabelled, other]
      · by_cases named : (name.isName && colon.isOp ":") = true
        · simp (disch := decide) [unlabelled, other, named]
        · simp (disch := decide) [unlabelled, other, named]
    · rcases rest with _ | ⟨colon, _ | ⟨first, rest⟩⟩
      · simp [unlabelled, other]
      · simp [unlabelled, other]
      · by_cases named : (label.isName && colon.isOp ":") = true
        · simp (disch := decide) [unlabelled, other, named]
        · simp (disch := decide) [unlabelled, other, named]

/-! ## Type specifications -/

/-- Copy a type specification. -/
def typeSpec (spec : TypeSpec) : TypeSpec :=
  { spec with kind := spec.kind.map copy.text, rest := spec.rest.map copy.token }

/-- What is found in the items of a list by words and operators is found in their
copies. -/
theorem findSome?_tokens {find : List Token → Option String}
    (same : ∀ item, find (item.map copy.token) = find item) (items : List (List Token)) :
    (items.map (List.map copy.token)).findSome? find = items.findSome? find := by
  rw [List.findSome?_map]
  congr 1
  funext item
  exact same item

@[simp]
theorem kindSelector?_tokens (typeName : String) (selector : List Token) :
    kindSelector? typeName (selector.map copy.token) = kindSelector? typeName selector := by
  have first_eq : ((Bracket.items selector).map (List.map copy.token)).headD [] =
      ((Bracket.items selector).headD []).map copy.token := by
    cases Bracket.items selector <;> rfl
  unfold kindSelector?
  dsimp only
  rw [items_tokens, findSome?_tokens, first_eq, copy.find?_tokens (by decide), spelling_tokens,
    List.isEmpty_map]
  intro item
  rcases item with _ | ⟨keyword, _ | ⟨sign, _ | ⟨value, more⟩⟩⟩
  · rfl
  · rfl
  · rfl
  · simp (disch := decide) only [List.map_cons, isWord_token, isOp_token]
    rw [← List.map_cons, spelling_tokens]

theorem kind_kindSelector? (typeName : String) (selector : List Token) :
    (kindSelector? typeName selector).map copy.text = kindSelector? typeName selector := by
  have lowered (tokens : List Token) : copy.text (spelling tokens) = spelling tokens :=
    copy.text_lower _
  simp only [kindSelector?]
  split
  · rename_i kind found
    obtain ⟨item, -, item_eq⟩ := List.exists_of_findSome?_eq_some found
    split at item_eq
    · split at item_eq
      · cases item_eq
        simp [lowered]
      · contradiction
    · contradiction
  · split
    · simp [lowered]
    · rfl

@[simp]
theorem ofSuffix_tokens (name : String) (tokens : List Token) :
    TypeSpec.ofSuffix name (tokens.map copy.token) =
      copy.typeSpec (TypeSpec.ofSuffix name tokens) := by
  cases tokens with
  | nil => rfl
  | cons token rest =>
    simp (disch := decide) only [List.map_cons, TypeSpec.ofSuffix, isOp_token]
    split
    · rw [← List.map_cons, inside_tokens, beyond_tokens, kindSelector?_tokens, typeSpec]
      simp only [TypeSpec.mk.injEq, and_true, true_and]
      split
      · rfl
      · exact (copy.kind_kindSelector? ..).symm
    · cases rest with
      | nil => rfl
      | cons size more =>
        simp (disch := decide) only [List.map_cons, isOp_token]
        split
        · simp only [typeSpec, text_token, TypeSpec.mk.injEq, true_and]
          constructor
          · split <;> rfl
          · split
            · rw [← List.map_cons, beyond_tokens]
            · rfl
        · rfl

@[simp]
theorem typeSpec_tokens (tokens : List Token) :
    Statement.typeSpec (tokens.map copy.token) = copy.typeSpec (Statement.typeSpec tokens) := by
  rcases tokens with _ | ⟨first, _ | ⟨second, more⟩⟩
  · rfl
  · simp only [List.map_cons, List.map_nil, Statement.typeSpec, lower_token]
    exact copy.ofSuffix_tokens first.lower []
  · simp only [List.map_cons, Statement.typeSpec, lower_token, isName_token]
    split
    · exact copy.ofSuffix_tokens _ more
    · exact copy.ofSuffix_tokens _ (second :: more)

@[simp]
theorem typeSpecLength_tokens (tokens : List Token) :
    typeSpecLength (tokens.map copy.token) = typeSpecLength tokens := by
  simp [typeSpecLength, Transcription.typeSpec]

@[simp]
theorem isDerivedTypeWord_token (token : Token) :
    isDerivedTypeWord (copy.token token) = isDerivedTypeWord token := by
  simp [isDerivedTypeWord]

@[simp]
theorem isDeclaration_tokens (tokens : List Token) :
    isDeclaration (tokens.map copy.token) = isDeclaration tokens := by
  cases tokens with
  | nil => rfl
  | cons first rest => simp (disch := decide) [isDeclaration, Option.any_map]

/-! ## Type declaration statements -/

/-- Copy the attributes of a statement. -/
def attributes (attributes : Attributes) : Attributes :=
  { attributes with dimension := attributes.dimension.map copy.token }

@[simp]
theorem intentOf_tokens (tokens : List Token) :
    Attributes.intentOf (tokens.map copy.token) = Attributes.intentOf tokens := by
  simp [Attributes.intentOf]

theorem add_tokens (found : Attributes) (item : List Token) :
    (copy.attributes found).add (item.map copy.token) = copy.attributes (found.add item) := by
  cases item with
  | nil => rfl
  | cons first rest =>
    simp (disch := decide) only [List.map_cons, Attributes.add, isName_token, lower_token,
      List.head?_map, Option.any_map, isOp_token, inside_tokens, intentOf_tokens]
    split
    · simp only [attributes, Attributes.mk.injEq, true_and]
      split <;> rfl
    · rfl

@[simp]
theorem ofItems_tokens (items : List (List Token)) :
    Attributes.ofItems (items.map (List.map copy.token)) =
      copy.attributes (Attributes.ofItems items) := by
  have folded (found : Attributes) :
      (items.map (List.map copy.token)).foldl Attributes.add (copy.attributes found) =
        copy.attributes (items.foldl Attributes.add found) := by
    induction items generalizing found with
    | nil => rfl
    | cons item rest ih => rw [List.map_cons, List.foldl_cons, add_tokens, ih, List.foldl_cons]
  exact folded .empty

/-- Copy a type declaration statement. -/
def typeDeclaration (statement : TypeDeclaration) : TypeDeclaration where
  spec := copy.typeSpec statement.spec
  attributes := copy.attributes statement.attributes
  entities := statement.entities.map (List.map copy.token)

@[simp]
theorem typeDeclaration_tokens (tokens : List Token) :
    Statement.typeDeclaration (tokens.map copy.token) =
      copy.typeDeclaration (Statement.typeDeclaration tokens) := by
  simp (disch := decide) only [Statement.typeDeclaration, find?_tokens, typeSpec_tokens,
    typeSpecLength_tokens]
  cases Bracket.find? "::" tokens with
  | none => simp only [typeDeclaration, Transcription.typeSpec, items_tokens]; rfl
  | some colons =>
    simp (disch := decide) only [typeDeclaration, Transcription.typeSpec, List.head?_map,
      Option.any_map, isOp_token, ← List.map_take, ← List.map_drop, items_tokens,
      ofItems_tokens]
    congr 1
    split <;> rfl

@[simp]
theorem entityTail_tokens (dimension tokens : List Token) :
    entityTail (dimension.map copy.token) (tokens.map copy.token) =
      ((entityTail dimension tokens).1.map copy.token,
        (entityTail dimension tokens).2.map copy.token) := by
  fun_induction entityTail dimension tokens with
  | case1 => simp [entityTail]
  | case2 dimension token rest opens ih =>
    rw [entityTail.eq_def, List.map_cons]
    simp (disch := decide) only [isOp_token, opens, if_true]
    rw [← List.map_cons, inside_tokens, beyond_tokens, ih]
  | case3 dimension token rest noBracket square ih =>
    rw [entityTail.eq_def, List.map_cons]
    simp (disch := decide) only [isOp_token, noBracket, square, if_true, Bool.false_eq_true,
      if_false]
    rw [← List.map_cons, beyond_tokens, ih]
  | case4 dimension token noBracket noSquare star =>
    rw [entityTail.eq_def, List.map_cons]
    simp (disch := decide) [noBracket, noSquare, star]
  | case5 dimension token noBracket noSquare star length more opens ih =>
    rw [entityTail.eq_def, List.map_cons, List.map_cons]
    simp (disch := decide) only [isOp_token, noBracket, noSquare, star, opens, if_true,
      Bool.false_eq_true, if_false]
    rw [← List.map_cons, beyond_tokens, ih]
  | case6 dimension token noBracket noSquare star length more noOpening ih =>
    rw [entityTail.eq_def, List.map_cons, List.map_cons]
    simp (disch := decide) only [isOp_token, noBracket, noSquare, star, noOpening, if_true,
      Bool.false_eq_true, if_false, ih]
  | case7 dimension token rest noBracket noSquare noStar sign =>
    rw [entityTail.eq_def, List.map_cons]
    simp (disch := decide) only [isOp_token, noBracket, noSquare, noStar, sign, if_true,
      Bool.false_eq_true, if_false]
  | case8 dimension token rest noBracket noSquare noStar noSign ih =>
    rw [entityTail.eq_def, List.map_cons]
    simp (disch := decide) only [isOp_token, noBracket, noSquare, noStar, noSign,
      Bool.false_eq_true, if_false, ih]

/-- Copy a declaration. -/
def declaration (declaration : Declaration) : Declaration :=
  { declaration with
    token := copy.token declaration.token
    kind := declaration.kind.map copy.text
    dimension := declaration.dimension.map copy.token
    initializer := declaration.initializer.map copy.token }

@[simp]
theorem declarations_typeDeclaration (statement : TypeDeclaration) :
    (copy.typeDeclaration statement).declarations =
      statement.declarations.map copy.declaration := by
  simp only [TypeDeclaration.declarations, typeDeclaration, List.filterMap_map,
    List.map_filterMap]
  congr 1
  funext item
  cases item with
  | nil => rfl
  | cons name rest =>
    by_cases named : name.isName = true
    · simp [TypeDeclaration.declare?, named, typeSpec, attributes, declaration]
    · simp [TypeDeclaration.declare?, named]

/-! ## Headers -/

/-- Copy the header of a procedure. -/
def header (header : Header) : Header :=
  { header with name := copy.token header.name, arguments := header.arguments.map copy.token }

@[simp]
theorem procedureKind?_token (token : Token) :
    procedureKind? (copy.token token) = procedureKind? token := by
  simp [procedureKind?]

@[simp]
theorem headerMarks?_tokens (tokens : List Token) :
    headerMarks? (tokens.map copy.token) =
      (headerMarks? tokens).map fun (marks, tail) => (marks, tail.map copy.token) := by
  fun_induction headerMarks? tokens with
  | case1 => simp [headerMarks?]
  | case2 token rest isKind =>
    rw [List.map_cons, headerMarks?, procedureKind?_token, if_pos isKind]
    rfl
  | case3 token rest noKind mark ih =>
    rw [List.map_cons, headerMarks?, procedureKind?_token, if_neg noKind, isAmong_token,
      if_pos mark, ih]
    cases headerMarks? rest <;> simp
  | case4 token rest noKind noMark isType ih =>
    rw [List.map_cons, headerMarks?, procedureKind?_token, if_neg noKind, isAmong_token,
      if_neg noMark, isAmong_token, isDerivedTypeWord_token, List.head?_map, Option.any_map]
    simp (disch := decide) only [isOp_token]
    rw [if_pos isType, ← List.map_cons, typeSpec_tokens, ← ih]
    rfl
  | case5 token rest noKind noMark noType =>
    rw [List.map_cons, headerMarks?, procedureKind?_token, if_neg noKind, isAmong_token,
      if_neg noMark, isAmong_token, isDerivedTypeWord_token, List.head?_map, Option.any_map]
    simp (disch := decide) only [isOp_token]
    rw [if_neg noType]
    rfl

@[simp]
theorem resultName?_tokens (found : Option String) (tokens : List Token) :
    resultName? found (tokens.map copy.token) = resultName? found tokens := by
  fun_induction resultName? found tokens with
  | case1 found word bracket name rest clause ih =>
    rw [List.map_cons, List.map_cons, List.map_cons, resultName?, isWord_token,
      copy.isOp_token (by decide), if_pos clause, lower_token, ← ih, ← beyond_tokens]
    rfl
  | case2 found word bracket name rest noClause ih =>
    rw [List.map_cons, List.map_cons, List.map_cons, resultName?, isWord_token,
      copy.isOp_token (by decide), if_neg noClause, ← ih]
    rfl
  | case3 found tokens short =>
    rcases tokens with _ | ⟨word, _ | ⟨bracket, _ | ⟨name, rest⟩⟩⟩
    · simp [resultName?]
    · simp [resultName?]
    · simp [resultName?]
    · exact absurd rfl (short word bracket name rest)

@[simp]
theorem argumentNames_tokens (tokens : List Token) :
    argumentNames (tokens.map copy.token) = (argumentNames tokens).map copy.token := by
  simp only [argumentNames, items_tokens, List.filterMap_map, List.map_filterMap]
  congr 1
  funext item
  rcases item with _ | ⟨token, _ | ⟨other, more⟩⟩
  · rfl
  · by_cases name : token.isName = true <;> simp [name]
  · rfl

@[simp]
theorem header?_tokens (tokens : List Token) :
    header? (tokens.map copy.token) = (header? tokens).map copy.header := by
  rw [header?, header?, headerMarks?_tokens]
  rcases headerMarks? tokens with _ | ⟨marks, _ | ⟨word, _ | ⟨name, rest⟩⟩⟩
  · rfl
  · rfl
  · rfl
  · simp (disch := decide) only [Option.map_some, List.map_cons, isName_token,
      procedureKind?_token, List.head?_map, Option.any_map, isOp_token,
      inside_tokens, argumentNames_tokens, beyond_tokens, resultName?_tokens]
    split
    · cases procedureKind? word with
      | none => rfl
      | some kind =>
        simp only [Option.map_some]
        split <;> rfl
    · rfl

/-! ## Actions -/

/-- Copy an action. -/
def action : Action → Action
  | .assignment target => .assignment (copy.token target)
  | .effect words token unit => .effect words (copy.token token) unit

@[simp]
theorem isGuardWord_token (token : Token) :
    isGuardWord (copy.token token) = isGuardWord token := by
  simp [isGuardWord]

@[simp]
theorem action?_tokens (tokens : List Token) :
    action? (tokens.map copy.token) = (action? tokens).map copy.action := by
  fun_induction action? tokens with
  | case1 => simp [action?]
  | case2 first rest target found =>
    rw [action?.eq_def, List.map_cons]
    dsimp only
    rw [← List.map_cons, assignmentTarget?_tokens, found]
    rfl
  | case3 first noTarget guarded =>
    simp [startsBracket] at guarded
  | case4 first bracket condition noTarget guarded ih =>
    rw [action?.eq_def, List.map_cons]
    dsimp only
    rw [← List.map_cons, assignmentTarget?_tokens, noTarget]
    simp only [Option.map_none, isGuardWord_token]
    rw [startsBracket_tokens, if_pos guarded, List.map_cons]
    dsimp only
    rw [← List.map_cons, beyond_tokens, ih]
  | case5 first rest noTarget noGuard error stops =>
    rw [action?.eq_def, List.map_cons]
    dsimp only
    rw [← List.map_cons, assignmentTarget?_tokens, noTarget]
    simp [noGuard, error, Option.any_map, stops, action]
  | case6 first rest noTarget noGuard error noStop =>
    rw [action?.eq_def, List.map_cons]
    dsimp only
    rw [← List.map_cons, assignmentTarget?_tokens, noTarget]
    simp [noGuard, error, Option.any_map, noStop]
  | case7 first rest noTarget noGuard noError effect unit =>
    rw [action?.eq_def, List.map_cons]
    dsimp only
    rw [← List.map_cons, assignmentTarget?_tokens, noTarget, unit?_tokens]
    simp [noGuard, noError, effect, action, unit]
  | case8 first rest noTarget noGuard noError noEffect =>
    rw [action?.eq_def, List.map_cons]
    dsimp only
    rw [← List.map_cons, assignmentTarget?_tokens, noTarget]
    simp [noGuard, noError, noEffect]

end FortranStyle.Transcription
