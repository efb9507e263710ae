import FortranStyle.Proofs.Position.Statement
import Mathlib.Data.Nat.SuccPred

/-!
# Lists, headings and declarations by position

The readers of what statements list and declare: control lists and lists of
names, the headings of units, types and interfaces, type declarations and USE
statements, and the actions of executable statements.
-/

namespace FortranStyle.Position

variable {tokens : List Token}

/-! ## Lists -/

/-- The unit of a READ or WRITE statement. -/
def unit? (tokens : List Token) : Attempt (Option String) := do
  if tokens.length < 2 then
    pure none
  else
    let second ← tokens[1]?
    if second.isOp "*" then
      pure (some "*")
    else if second.isOp "(" then
      let close ← matching tokens 1
      let items := Bracket.items (tokens.extract 2 close)
      let item ← if items.isEmpty then pure [] else items[0]?
      if item.isEmpty then
        pure none
      else
        let isNamed ← guarded (2 < item.length) do
          pure ((← item[0]?).isWord "unit" && (← item[1]?).isOp "=")
        pure (some (spelling (if isNamed then item.drop 2 else item)))
    else
      pure none

theorem unit?_eq (tokens : List Token) : unit? tokens = some (Statement.unit? tokens) := by
  rcases tokens with _ | ⟨first, _ | ⟨second, rest⟩⟩
  · rfl
  · rfl
  have long : ¬ rest.length + 1 + 1 < 2 := by omega
  by_cases star : second.isOp "*"
  · simp [unit?, Statement.unit?, long, star]
  by_cases bracket : second.isOp "("
  · have inner := extract_matching_cons first (second :: rest)
    simp only [unit?, Statement.unit?, List.length_cons, long, star, bracket, matching_cons_eq,
      inner, List.getElem?_cons_succ, List.getElem?_cons_zero, Option.bind_eq_bind,
      Option.bind_some, if_true, if_false]
    rcases Bracket.items (Bracket.inside (second :: rest)) with
      _ | ⟨_ | ⟨keyword, _ | ⟨sign, _ | ⟨value, more⟩⟩⟩, items⟩
    case cons.cons.cons.cons =>
      by_cases named : keyword.isWord "unit" = true ∧ sign.isOp "=" = true <;>
        simp [guarded, Statement.unitExpression, named]
    all_goals simp [guarded, Statement.unitExpression]
  · simp [unit?, Statement.unit?, long, star, bracket]

/-- The first token of an item, if it is a name. -/
def leadingName? (item : List Token) : Attempt (Option Token) := do
  if ← guarded (0 < item.length) (item[0]?.map (·.isName)) then
    pure (some (← item[0]?))
  else
    pure none

theorem leadingName?_eq (item : List Token) :
    leadingName? item =
      some (match item with
        | token :: _ => if token.isName then some token else none
        | [] => none) := by
  rcases item with _ | ⟨token, rest⟩
  · rfl
  · by_cases name : token.isName <;> simp [leadingName?, name]

/-- The names that an attribute statement lists. -/
def listedNames (tokens : List Token) : Attempt (List Token) :=
  let rest := match Bracket.find? "::" tokens with
    | some colons => tokens.drop (colons + 1)
    | none => tokens.drop 1
  (Bracket.items rest).filterMapM leadingName?

theorem listedNames_eq (tokens : List Token) :
    listedNames tokens = some (Statement.listedNames tokens) := by
  rw [listedNames, Statement.listedNames, filterMapM_eq leadingName?_eq]
  cases Bracket.find? "::" tokens <;> rfl

/-! ## Actions -/

/-- The action of an executable statement. -/
def action? (tokens : List Token) : Attempt (Option Statement.Action) := do
  match ← assignmentTarget? tokens with
  | some target => pure (some (.assignment target))
  | none =>
      let first ← tokens[0]?
      if ← guarded (Statement.isGuardWord first) (guarded (1 < tokens.length)
          (tokens[1]?.map (·.isOp "("))) then
        let close ← matching tokens 1
        let rest := tokens.drop (close + 1)
        let isBlock ← guarded (rest.length = 1) (rest[0]?.map (·.isWord "then"))
        if rest.isEmpty || isBlock then
          pure none
        else
          let ⟨_⟩ ← onward rest.length tokens.length
          action? rest
      else if first.isWord "error" then
        let stops ← guarded (1 < tokens.length) (tokens[1]?.map (·.isWord "stop"))
        pure (if stops then some (.effect "error stop" first none) else none)
      else if first.isAmong Vocabulary.effectWords then
        let unit ← if first.isAmong ["read", "write"] then unit? tokens else pure none
        pure (some (.effect first.lower first unit))
      else
        pure none
termination_by tokens.length

/-- THEN does nothing by itself. -/
theorem action?_then {token : Token} (word : token.isWord "then" = true) :
    Statement.action? [token] = none := by
  simp only [Token.isWord, Bool.and_eq_true, beq_iff_eq] at word
  simp [Statement.action?.eq_def, Statement.assignmentTarget?, Statement.leadsToAssignment,
    Statement.startsBracket, Token.isWord, Token.isAmong, word, Vocabulary.effectWords]

theorem action?_eq (filled : tokens ≠ []) :
    action? tokens = some (Statement.action? tokens) := by
  induction size : tokens.length using Nat.strongRecOn generalizing tokens with
  | ind count ih =>
    obtain ⟨first, rest, rfl⟩ := List.exists_cons_of_ne_nil filled
    have guards : guarded (Statement.isGuardWord first) (guarded (1 < (first :: rest).length)
        ((first :: rest)[1]?.map (·.isOp "("))) =
          some (Statement.isGuardWord first && Statement.startsBracket rest) := by
      cases rest <;> simp [Statement.startsBracket]
    rw [action?, assignmentTarget?_eq, Statement.action?.eq_def]
    dsimp only
    cases target : Statement.assignmentTarget? (first :: rest) with
    | some token => rfl
    | none =>
      simp only [List.getElem?_cons_zero, Option.bind_eq_bind, Option.bind_some, guards]
      cases guarding : Statement.isGuardWord first && Statement.startsBracket rest with
      | true =>
        rcases rest with _ | ⟨bracket, condition⟩
        · simp [Statement.startsBracket] at guarding
        have shorter := Bracket.length_beyond_cons_le bracket condition
        have cut := drop_matching (first :: bracket :: condition) 1
        rw [List.drop_one, List.tail_cons] at cut
        simp only [matching_cons_eq, Option.bind_some, if_true]
        rw [cut]
        rcases behind : Bracket.beyond (bracket :: condition) with _ | ⟨next, more⟩
        · simp [Statement.action?]
        have moves : (next :: more).length < (first :: bracket :: condition).length := by
          rw [behind] at shorter
          simp only [List.length_cons] at shorter ⊢
          omega
        have continued : action? (next :: more) = some (Statement.action? (next :: more)) :=
          ih _ (size ▸ moves) (by simp) rfl
        rw [onward_bind moves]
        by_cases block : more = [] ∧ next.isWord "then" = true
        · obtain ⟨rfl, thenWord⟩ := block
          simp [thenWord, action?_then]
        · cases more <;> simp_all
      | false =>
        by_cases error : first.isWord "error"
        · simp [error, apply_ite]
        · by_cases effect : first.isAmong Vocabulary.effectWords
          · by_cases transfer : first.isAmong ["read", "write"] <;>
              simp [error, effect, transfer, unit?_eq]
          · simp [error, effect]

/-! ## Headings -/

/-- The kind and the name of the program unit that a statement opens. -/
def unitHeading? (tokens : List Token) : Attempt (Option (UnitKind × Token)) := do
  let first ← tokens[0]?
  if first.isWord "program" then
    let name ← if 1 < tokens.length then tokens[1]? else pure first
    pure (some (.program, name))
  else if ← guarded (first.isWord "module")
      (guarded (tokens.length = 2) (tokens[1]?.map fun name =>
        name.isName && !name.isAmong ["procedure", "function", "subroutine"])) then
    pure (some (.module, ← tokens[1]?))
  else if ← guarded (first.isWord "submodule") (guarded (3 < tokens.length)
      (tokens[1]?.map (·.isOp "("))) then
    let close ← matching tokens 1
    if close + 1 < tokens.length then
      pure (some (.submodule, ← tokens[close + 1]?))
    else
      pure none
  else
    pure none

theorem unitHeading?_eq (filled : tokens ≠ []) :
    unitHeading? tokens = some (Statement.unitHeading? tokens) := by
  obtain ⟨first, rest, rfl⟩ := List.exists_cons_of_ne_nil filled
  by_cases program : first.isWord "program"
  · cases rest <;> simp [unitHeading?, Statement.unitHeading?, program]
  by_cases module : first.isWord "module"
  · have other : first.isWord "submodule" = false := by
      simp only [Token.isWord, Bool.and_eq_true, beq_iff_eq] at module
      simp [Token.isWord, module]
    rcases rest with _ | ⟨name, _ | ⟨second, more⟩⟩ <;>
      simp [unitHeading?, Statement.unitHeading?, program, module, other, apply_ite some]
  by_cases submodule : first.isWord "submodule"
  · rcases rest with _ | ⟨second, _ | ⟨third, _ | ⟨fourth, more⟩⟩⟩
    case cons.cons.cons =>
      by_cases bracket : second.isOp "("
      · have behind := congrArg List.head? (drop_matching_cons first
          (second :: third :: fourth :: more))
        rw [List.head?_drop] at behind
        simp [unitHeading?, Statement.unitHeading?, program, module, submodule, bracket,
          Statement.startsBracket, matching_cons_eq, ← behind]
        generalize Bracket.matching _ 1 = close
        rcases Nat.lt_or_ge close (more.length + 3) with room | room
        · simp [room]
          omega
        · simp [Nat.not_lt_of_le room]
          omega
      · simp [unitHeading?, Statement.unitHeading?, program, module, submodule, bracket,
          Statement.startsBracket]
    all_goals simp [unitHeading?, Statement.unitHeading?, program, module, submodule]
  · simp [unitHeading?, Statement.unitHeading?, program, module, submodule]

/-- The name and the visibility of the derived type that a statement opens. -/
def typeHeading? (tokens : List Token) : Attempt (Option DerivedType) := do
  let first ← tokens[0]?
  if first.isWord "type" && 1 < tokens.length then
    let second ← tokens[1]?
    if second.isOp "(" || second.isWord "is" then
      pure none
    else
      match Bracket.find? "::" tokens with
      | some colons =>
          if colons + 1 < tokens.length then
            let name ← tokens[colons + 1]?
            let attributes := ((tokens.extract 1 colons).filter (·.isName)).map (·.lower)
            pure (if name.isName then some ⟨name, Declaration.visibilityIn attributes⟩ else none)
          else
            pure none
      | none => pure (if second.isName then some ⟨second, Declaration.visibilityIn []⟩ else none)
  else
    pure none

theorem typeHeading?_eq (filled : tokens ≠ []) :
    typeHeading? tokens = some (Statement.typeHeading? tokens) := by
  rcases tokens with _ | ⟨first, _ | ⟨second, rest⟩⟩
  · exact absurd rfl filled
  · simp [typeHeading?, Statement.typeHeading?]
  by_cases type : first.isWord "type"
  · by_cases other : second.isOp "(" ∨ second.isWord "is"
    · have : ¬ (second.isOp "(" = false ∧ second.isWord "is" = false) := by
        rcases other with other | other <;> simp [other]
      simp [typeHeading?, Statement.typeHeading?, type, other, this]
    · rw [not_or, Bool.not_eq_true, Bool.not_eq_true] at other
      cases colons : Bracket.find? "::" (first :: second :: rest) with
      | none => simp [typeHeading?, Statement.typeHeading?, type, other, colons]
      | some index =>
        have between : ((first :: second :: rest).take index).tail =
            (second :: rest).take (index - 1) := by cases index <;> rfl
        by_cases room : index < rest.length + 1 <;>
          simp [typeHeading?, Statement.typeHeading?, type, other, colons, room, between] <;> omega
  · simp [typeHeading?, Statement.typeHeading?, type]

/-- The empty interface block that a statement opens. -/
def interfaceHeading? (tokens : List Token) : Attempt (Option Interface) := do
  let isAbstract ← tokens[0]?.map (·.isWord "abstract")
  let tokens := if isAbstract then tokens.drop 1 else tokens
  if ← guarded (0 < tokens.length) (tokens[0]?.map (·.isWord "interface")) then
    let token ← tokens[0]?
    let name := spelling (tokens.drop 1)
    pure (some
      { name := if name = "" then none else some name, token, isAbstract, bodies := [],
        moduleProcedures := [] })
  else
    pure none

theorem interfaceHeading?_eq (filled : tokens ≠ []) :
    interfaceHeading? tokens = some (Statement.interfaceHeading? tokens) := by
  obtain ⟨first, rest, rfl⟩ := List.exists_cons_of_ne_nil filled
  by_cases isAbstract : first.isWord "abstract"
  · rcases rest with _ | ⟨second, more⟩
    · simp [interfaceHeading?, Statement.interfaceHeading?, isAbstract]
    · by_cases word : second.isWord "interface" <;>
        simp [interfaceHeading?, Statement.interfaceHeading?, isAbstract, word]
  · by_cases word : first.isWord "interface" <;>
      simp [interfaceHeading?, Statement.interfaceHeading?, isAbstract, word]

/-- Whether a statement divides an open block. -/
def isDivider (kind : BlockKind) (tokens : List Token) : Attempt Bool := do
  let first := (← tokens[0]?).word
  let second ← if 1 < tokens.length then tokens[1]?.map (·.word) else pure ""
  if first == "contains" then
    pure (kind.isScope || kind == .derivedType)
  else
    match kind with
    | .construct .ifThen => pure (first == "else" || first == "elseif")
    | .construct .whereMask =>
        pure (first == "elsewhere" || (first == "else" && second == "where"))
    | .construct .select =>
        pure (first == "case" || first == "rank" ||
          ((first == "type" || first == "class") && (second == "is" || second == "default")))
    | _ => pure false

theorem isDivider_eq (kind : BlockKind) (filled : tokens ≠ []) :
    isDivider kind tokens = some (Statement.isDivider kind tokens) := by
  obtain ⟨first, rest, rfl⟩ := List.exists_cons_of_ne_nil filled
  by_cases contains : first.word = "contains"
  · cases rest <;> simp [isDivider, Statement.isDivider, contains]
  · cases rest <;> simp [isDivider, Statement.isDivider, contains]
    all_goals split <;> simp

/-! ## Type declarations -/

/-- Add one attribute. -/
def addAttribute (attributes : Statement.Attributes) (item : List Token) :
    Attempt Statement.Attributes := do
  if ← guarded (0 < item.length) (item[0]?.map (·.isName)) then
    let word := (← item[0]?).lower
    let attributes := { attributes with words := attributes.words ++ [word] }
    if ← guarded (1 < item.length) (item[1]?.map (·.isOp "(")) then
      let close ← matching item 1
      let inner := item.extract 2 close
      if word == "intent" then
        pure { attributes with intent := some (Statement.Attributes.intentOf inner) }
      else if word == "dimension" then
        pure { attributes with dimension := inner }
      else
        pure attributes
    else
      pure attributes
  else
    pure attributes

theorem addAttribute_eq (attributes : Statement.Attributes) (item : List Token) :
    addAttribute attributes item = some (attributes.add item) := by
  rcases item with _ | ⟨first, rest⟩
  · rfl
  by_cases name : first.isName
  · rcases rest with _ | ⟨bracket, more⟩
    · simp [addAttribute, Statement.Attributes.add, name]
    by_cases opens : bracket.isOp "("
    · have inner := extract_matching_cons first (bracket :: more)
      by_cases intent : first.lower = "intent"
      · simp [addAttribute, Statement.Attributes.add, name, opens, matching_cons_eq, inner, intent,
          - List.extract_eq_take_drop]
      by_cases dimension : first.lower = "dimension" <;>
        simp [addAttribute, Statement.Attributes.add, name, opens, matching_cons_eq, inner, intent,
          dimension, - List.extract_eq_take_drop]
    · simp [addAttribute, Statement.Attributes.add, name, opens]
  · simp [addAttribute, Statement.Attributes.add, name]

/-- Read a type declaration statement. -/
def typeDeclaration (tokens : List Token) : Attempt Statement.TypeDeclaration := do
  let (name, kind, index) ← typeSpec tokens
  let spec : Statement.TypeSpec := ⟨name, kind, tokens.drop index⟩
  match Bracket.find? "::" tokens with
  | some colons =>
      let attributes ←
        if ← guarded (index < colons) (tokens[index]?.map (·.isOp ",")) then
          (Bracket.items (tokens.extract (index + 1) colons)).foldlM addAttribute .empty
        else
          pure .empty
      pure ⟨spec, attributes, Bracket.items (tokens.drop (colons + 1))⟩
  | none => pure ⟨spec, .empty, Bracket.items (tokens.drop index)⟩

theorem typeDeclaration_eq (filled : tokens ≠ []) :
    typeDeclaration tokens = some (Statement.typeDeclaration tokens) := by
  rw [typeDeclaration, Statement.typeDeclaration, typeSpec_eq filled]
  simp only [Option.bind_eq_bind, Option.bind_some, drop_typeSpecLength]
  cases colons : Bracket.find? "::" tokens with
  | none => rfl
  | some index =>
    have inside : index < tokens.length := findFrom?_lt colons
    have comma : (Statement.typeSpec tokens).rest.head? =
        tokens[Statement.typeSpecLength tokens]? := by
      rw [← drop_typeSpecLength, List.head?_drop]
    by_cases before : Statement.typeSpecLength tokens < index
    · have bound := Nat.lt_trans before inside
      by_cases follows : tokens[Statement.typeSpecLength tokens].isOp ","
      · simp [before, bound, comma, follows, foldlM_eq addAttribute_eq,
          Statement.Attributes.ofItems, List.drop_take]
      · simp [before, bound, comma, follows]
    · simp [before]

/-- What follows the name of an entity from a position on: the tokens of its
dimension and of its initialisation. -/
def entityTail (item dimension : List Token) (index : Nat) :
    Attempt (List Token × List Token) :=
  if inside : index < item.length then do
    let token ← item[index]?
    if token.isOp "(" then
      let close ← matching item index
      let ⟨_⟩ ← onward index (close + 1)
      entityTail item (item.extract (index + 1) close) (close + 1)
    else if token.isOp "[" then
      let close ← matching item index
      let ⟨_⟩ ← onward index (close + 1)
      entityTail item dimension (close + 1)
    else if token.isOp "*" then
      if ← guarded (index + 1 < item.length) (item[index + 1]?.map (·.isOp "(")) then
        let close ← matching item (index + 1)
        let ⟨_⟩ ← onward index (close + 1)
        entityTail item dimension (close + 1)
      else
        entityTail item dimension (index + 2)
    else if token.isOp "=" || token.isOp "=>" then
      pure (dimension, item.drop (index + 1))
    else
      entityTail item dimension (index + 1)
  else
    pure (dimension, [])
termination_by item.length - index

theorem entityTail_eq (item dimension : List Token) (index : Nat) :
    entityTail item dimension index = some (Statement.entityTail dimension (item.drop index)) := by
  induction index using forward item generalizing dimension with
  | outside index outside =>
    rw [entityTail, dif_neg outside, drop_eq_nil outside, Statement.entityTail]
    rfl
  | inside index token inside here cut ih =>
    rw [entityTail, dif_pos inside, here, cut, Statement.entityTail.eq_def]
    have next := ih (index + 1) (Nat.lt_succ_self index)
    have behind := ih _ (Nat.lt_succ_of_le (le_matching item index))
    have inner := extract_matching item index
    rw [drop_matching, cut] at behind
    rw [cut] at inner
    by_cases bracket : token.isOp "("
    · simp [bracket, matching_eq inside, behind, inner, - List.extract_eq_take_drop]
    by_cases square : token.isOp "["
    · simp [bracket, square, matching_eq inside, behind]
    by_cases star : token.isOp "*"
    · cases further : item.drop (index + 1) with
      | nil =>
        have beyond := ih (index + 2) (by omega) dimension
        rw [List.drop_eq_nil_of_le (by have := List.drop_eq_nil_iff.mp further; omega)] at beyond
        have short := Nat.not_lt_of_le (List.drop_eq_nil_iff.mp further)
        simp [guarded, bracket, square, star, short, beyond, Statement.entityTail]
      | cons length more =>
        obtain ⟨there, last⟩ := drop_eq_cons_iff.mp further
        obtain ⟨room, value⟩ := List.getElem?_eq_some_iff.mp there
        by_cases opens : length.isOp "("
        · have beyond := ih _ (Nat.lt_succ_of_le (Nat.le_of_lt (le_matching item (index + 1))))
          rw [drop_matching, further] at beyond
          simp [bracket, square, star, room, value, opens, matching_eq room, beyond]
        · have beyond := ih (index + 2) (by omega) dimension
          rw [last] at beyond
          simp [bracket, square, star, room, value, opens, beyond]
    by_cases sign : token.isOp "=" = true ∨ token.isOp "=>" = true
    · simp [bracket, square, star, sign]
    · simp [bracket, square, star, sign, next]

/-- The declaration of an entity. -/
def declare? (statement : Statement.TypeDeclaration) (item : List Token) :
    Attempt (Option Declaration) := do
  match ← leadingName? item with
  | none => pure none
  | some name =>
      let (dimension, initializer) ← entityTail item statement.attributes.dimension 1
      pure (some
        { token := name, typeName := statement.spec.name, kind := statement.spec.kind,
          attributes := statement.attributes.words, intent := statement.attributes.intent,
          dimension, initializer, isAutomatic := false })

/-- The declarations of all entities of a statement. -/
def declarations (tokens : List Token) : Attempt (List Declaration) := do
  let statement ← typeDeclaration tokens
  statement.entities.filterMapM (declare? statement)

theorem declarations_eq (filled : tokens ≠ []) :
    declarations tokens = some (Statement.typeDeclaration tokens).declarations := by
  have declares (statement : Statement.TypeDeclaration) (item : List Token) :
      declare? statement item = some (statement.declare? item) := by
    rw [declare?, leadingName?_eq]
    rcases item with _ | ⟨name, rest⟩
    · rfl
    · by_cases isName : name.isName <;>
        simp [Statement.TypeDeclaration.declare?, isName, entityTail_eq]
  rw [declarations, typeDeclaration_eq filled]
  exact filterMapM_eq (declares _) _

/-! ## USE statements -/

/-- The local names of an ONLY list that a run starts with. -/
def frontOnly? : List Token → Option (List String)
  | comma :: word :: colon :: items =>
      if comma.isOp "," && word.isWord "only" && colon.isOp ":" then
        some (((Bracket.items items).filter (!·.isEmpty)).map Statement.localName)
      else
        none
  | _ => none

/-- The module that a run starts with, and the ONLY list behind it. -/
def frontUse? (token : Token) (isIntrinsic : Bool) : List Token → Option Use
  | [] => none
  | name :: rest =>
      if name.isName then some { token, name, only := frontOnly? rest, isIntrinsic } else none

/-- The local names of an ONLY list at a position. -/
def onlyAt? (tokens : List Token) (index : Nat) : Attempt (Option (List String)) := do
  let hasOnly ← guarded (index + 2 < tokens.length) do
    pure ((← tokens[index]?).isOp "," && (← tokens[index + 1]?).isWord "only" &&
      (← tokens[index + 2]?).isOp ":")
  if hasOnly then
    let items := Bracket.items (tokens.drop (index + 3))
    pure (some ((items.filter (!·.isEmpty)).map Statement.localName))
  else
    pure none

theorem onlyAt?_eq (tokens : List Token) (index : Nat) :
    onlyAt? tokens index = some (frontOnly? (tokens.drop index)) := by
  rcases cut : tokens.drop index with _ | ⟨comma, _ | ⟨word, _ | ⟨colon, items⟩⟩⟩
  case cons.cons.cons =>
    obtain ⟨here, further⟩ := drop_eq_cons_iff.mp cut
    obtain ⟨there, last⟩ := drop_eq_cons_iff.mp further
    obtain ⟨yonder, rfl⟩ := drop_eq_cons_iff.mp last
    obtain ⟨room, _⟩ := List.getElem?_eq_some_iff.mp yonder
    rw [onlyAt?, here, there, yonder, guarded, if_pos room, frontOnly?]
    simp [apply_ite some]
  all_goals
    have short : ¬ index + 2 < tokens.length := by
      have := congrArg List.length cut
      simp at this
      omega
    simp [onlyAt?, frontOnly?, guarded, short]

/-- The module at a position, and the ONLY list behind it. -/
def useAt? (token : Token) (isIntrinsic : Bool) (tokens : List Token) (index : Nat) :
    Attempt (Option Use) := do
  if ← guarded (index < tokens.length) (tokens[index]?.map (·.isName)) then
    let name ← tokens[index]?
    let only ← onlyAt? tokens (index + 1)
    pure (some { token, name, only, isIntrinsic })
  else
    pure none

theorem useAt?_eq (token : Token) (isIntrinsic : Bool) (tokens : List Token) (index : Nat) :
    useAt? token isIntrinsic tokens index =
      some (frontUse? token isIntrinsic (tokens.drop index)) := by
  rw [useAt?, guarded_getElem?, onlyAt?_eq]
  cases cut : tokens.drop index with
  | nil => rfl
  | cons name rest =>
    obtain ⟨here, rfl⟩ := drop_eq_cons_iff.mp cut
    by_cases isName : name.isName <;> simp [here, isName, frontUse?]

/-- Read a USE statement. -/
def use? (tokens : List Token) : Attempt (Option Use) := do
  let token ← tokens[0]?
  let hasNature ← guarded (1 < tokens.length) (tokens[1]?.map (·.isOp ","))
  let isIntrinsic ← guarded hasNature (guarded (2 < tokens.length)
    (tokens[2]?.map (·.isWord "intrinsic")))
  let index := if hasNature then 3 else 1
  let hasColons ← guarded (index < tokens.length) (tokens[index]?.map (·.isOp "::"))
  useAt? token isIntrinsic tokens (if hasColons then index + 1 else index)

theorem ofStatement?_cons (token : Token) (rest : List Token) :
    Use.ofStatement? (token :: rest) =
      let hasNature := rest.head?.any (·.isOp ",")
      let behind := if hasNature then rest.drop 2 else rest
      frontUse? token (hasNature && rest[1]?.any (·.isWord "intrinsic"))
        (if behind.head?.any (·.isOp "::") then behind.drop 1 else behind) := by
  rw [Use.ofStatement?]
  dsimp only
  generalize (if rest.head?.any (·.isOp ",") then rest.drop 2 else rest) = behind
  generalize (if behind.head?.any (·.isOp "::") then behind.drop 1 else behind) = named
  rcases named with _ | ⟨name, _ | ⟨comma, _ | ⟨word, _ | ⟨colon, items⟩⟩⟩⟩ <;> rfl

theorem use?_eq (filled : tokens ≠ []) : use? tokens = some (Use.ofStatement? tokens) := by
  obtain ⟨token, rest, rfl⟩ := List.exists_cons_of_ne_nil filled
  rw [ofStatement?_cons, use?]
  simp only [guarded_getElem?, guarded_some, useAt?_eq, List.getElem?_cons_zero,
    Option.bind_eq_bind, Option.bind_some, List.drop_succ_cons, List.drop_zero]
  by_cases nature : rest.head?.any (·.isOp ",")
  · by_cases colons : rest[2]?.any (·.isOp "::") <;> simp [nature, colons]
  · by_cases colons : rest.head?.any (·.isOp "::") <;> simp [nature, colons]

end FortranStyle.Position
