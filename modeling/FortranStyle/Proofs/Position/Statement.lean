import FortranStyle.Proofs.Position.Bracket
import FortranStyle.Program.Scan

/-!
# Statements by position

The readers of single statements: assignments, closing and opening statements,
type specifications, headers of procedures, and control lists.  A statement that
stops short, as a lone `end`, `type` or `if (`, is where the positions run out.
-/

namespace FortranStyle.Position

variable {tokens : List Token}

/-! ## Labels and assignments -/

/-- A statement without its numeric label and without the name of its
construct. -/
def unlabelled (tokens : List Token) : Attempt (List Token) := do
  let first ← tokens[0]?
  let tokens := if first.kind == .number then tokens.drop 1 else tokens
  let isNamed ← guarded (2 < tokens.length) do
    pure ((← tokens[0]?).isName && (← tokens[1]?).isOp ":")
  pure (if isNamed then tokens.drop 2 else tokens)

theorem unlabelled_eq (filled : tokens ≠ []) :
    unlabelled tokens = some (Statement.unlabelled tokens) := by
  obtain ⟨first, rest, rfl⟩ := List.exists_cons_of_ne_nil filled
  rw [unlabelled, Statement.unlabelled]
  simp only [List.getElem?_cons_zero, Option.bind_eq_bind, Option.bind_some, List.drop_one,
    List.tail_cons]
  generalize (if first.kind == .number then rest else first :: rest) = run
  rcases run with _ | ⟨name, _ | ⟨colon, _ | ⟨next, rest⟩⟩⟩ <;> simp [guarded]

/-- Whether subscripts and components lead from a position up to a sign of
assignment. -/
def leadsToAssignment (tokens : List Token) (index : Nat) : Attempt Bool :=
  if inside : index < tokens.length then do
    let token ← tokens[index]?
    if token.isOp "(" then
      let close ← matching tokens index
      let ⟨_⟩ ← onward index (close + 1)
      leadsToAssignment tokens (close + 1)
    else if ← guarded (token.isOp "%") (guarded (index + 1 < tokens.length)
        (tokens[index + 1]?.map (·.isName))) then
      leadsToAssignment tokens (index + 2)
    else
      pure (token.isOp "=" || token.isOp "=>")
  else
    pure false
termination_by tokens.length - index

theorem leadsToAssignment_eq (tokens : List Token) (index : Nat) :
    leadsToAssignment tokens index = some (Statement.leadsToAssignment (tokens.drop index)) := by
  induction index using forward tokens with
  | outside index outside =>
    rw [leadsToAssignment, dif_neg outside, drop_eq_nil outside, Statement.leadsToAssignment]
    rfl
  | inside index token inside here cut ih =>
    rw [leadsToAssignment, dif_pos inside, here, cut, Statement.leadsToAssignment.eq_def]
    by_cases bracket : token.isOp "("
    · have behind := ih _ (Nat.lt_succ_of_le (le_matching tokens index))
      rw [drop_matching, cut] at behind
      simp [bracket, matching_eq inside, behind]
    by_cases percent : token.isOp "%"
    · have noSign := isOp_eq_false percent (show "%" ≠ "=" by decide)
      have noArrow := isOp_eq_false percent (show "%" ≠ "=>" by decide)
      cases further : tokens.drop (index + 1) with
      | nil => simp [bracket, percent, further, noSign, noArrow]
      | cons component rest =>
        have behind := ih (index + 2) (by omega)
        rw [(drop_eq_cons_iff.mp further).2] at behind
        by_cases name : component.isName <;>
          simp [bracket, percent, further, name, behind, noSign, noArrow]
    · simp [bracket, percent]

/-- The base name that a statement assigns to. -/
def assignmentTarget? (tokens : List Token) : Attempt (Option Token) := do
  if ← guarded (0 < tokens.length) (tokens[0]?.map (·.isName)) then
    if ← leadsToAssignment tokens 1 then
      pure (some (← tokens[0]?))
    else
      pure none
  else
    pure none

theorem assignmentTarget?_eq (tokens : List Token) :
    assignmentTarget? tokens = some (Statement.assignmentTarget? tokens) := by
  cases tokens with
  | nil => rfl
  | cons first rest =>
    by_cases name : first.isName <;>
      simp [assignmentTarget?, Statement.assignmentTarget?, leadsToAssignment_eq, guarded, name,
        apply_ite some]

/-! ## Statements that open and close blocks -/

/-- Read a closing statement. -/
def closer? (tokens : List Token) : Attempt (Option Statement.Closer) := do
  let first ← tokens[0]?
  if (Statement.joinedEnd? first).isSome then
    let kind ← Statement.joinedEnd? first
    pure (some ⟨some kind, tokens.drop 1⟩)
  else if !first.isWord "end" then
    pure none
  else if tokens.length = 1 then
    pure (some ⟨none, []⟩)
  else
    let second ← tokens[1]?
    pure ((BlockKind.ofWord? second.word).map (⟨some ·, tokens.drop 2⟩))

theorem closer?_eq (filled : tokens ≠ []) :
    closer? tokens = some (Statement.closer? tokens) := by
  obtain ⟨first, rest, rfl⟩ := List.exists_cons_of_ne_nil filled
  rw [closer?, Statement.closer?.eq_def]
  cases joined : Statement.joinedEnd? first with
  | some kind => simp [joined]
  | none =>
    by_cases ends : first.isWord "end"
    · cases rest <;> simp [joined, ends]
    · simp [joined, ends]

theorem startsBracket_eq (tokens : List Token) :
    Statement.startsBracket tokens = tokens.head?.any (·.isOp "(") := by
  cases tokens <;> rfl

/-- Whether a statement is one word, or its second token passes a test. -/
def isAloneOr (test : Token → Bool) (tokens : List Token) : Attempt Bool :=
  if tokens.length = 1 then pure true else tokens[1]?.map test

theorem isAloneOr_eq (test : Token → Bool) (first : Token) (rest : List Token) :
    isAloneOr test (first :: rest) = some (rest.head?.all test) := by
  cases rest <;> simp [isAloneOr]

/-- Whether a bracket opens behind the first token and nothing follows it. -/
def isOneBracket (tokens : List Token) : Attempt Bool := do
  if ← guarded (1 < tokens.length) (tokens[1]?.map (·.isOp "(")) then
    pure ((← matching tokens 1) == tokens.length - 1)
  else
    pure false

theorem isOneBracket_eq (first : Token) (rest : List Token) :
    isOneBracket (first :: rest) = some (Statement.isOneBracket rest) := by
  cases rest with
  | nil => simp [isOneBracket, Statement.isOneBracket, Statement.startsBracket]
  | cons second more =>
    have inside : 1 < (first :: second :: more).length := by simp
    have last := matching_lt inside
    have behind := drop_matching (first :: second :: more) 1
    simp only [List.drop_succ_cons, List.drop_zero, List.length_cons] at behind last
    have stop : (Bracket.matching (first :: second :: more) 1 == more.length + 1) =
        (Bracket.beyond (second :: more)).isEmpty := by
      rw [Bool.eq_iff_iff, beq_iff_eq, List.isEmpty_iff, ← behind, List.drop_eq_nil_iff,
        List.length_cons]
      omega
    by_cases bracket : second.isOp "("
    · simp [isOneBracket, Statement.isOneBracket, Statement.startsBracket, bracket,
        matching_eq inside, stop]
    · simp [isOneBracket, Statement.isOneBracket, Statement.startsBracket, bracket]

/-- Whether a bracket opens behind the first token and THEN comes last. -/
def endsInThen (tokens : List Token) : Attempt Bool :=
  guarded (2 < tokens.length) do
    pure ((← tokens[1]?).isOp "(" && (← tokens[tokens.length - 1]?).isWord "then")

theorem endsInThen_eq (first : Token) (rest : List Token) :
    endsInThen (first :: rest) = some (Statement.startsBracket rest && rest.length ≥ 2 &&
      rest.getLast?.any (·.isWord "then")) := by
  rcases rest with _ | ⟨second, _ | ⟨third, more⟩⟩
  · rfl
  · simp [endsInThen, guarded]
  · simp [endsInThen, guarded, Statement.startsBracket, List.getLast?_eq_getElem?]

/-- A kind of block construct, when its condition holds. -/
def opens (kind : ConstructKind) (condition : Attempt Bool) : Attempt (Option ConstructKind) :=
  condition.map fun holds => if holds then some kind else none

/-- The kind of block construct that a statement opens. -/
def construct? (tokens : List Token) : Attempt (Option ConstructKind) := do
  let first ← tokens[0]?
  match first.word with
  | "do" => opens .doLoop (isAloneOr (·.kind != .number) tokens)
  | "if" => opens .ifThen (endsInThen tokens)
  | "select" | "selectcase" | "selecttype" => pure (some .select)
  | "where" => opens .whereMask (isOneBracket tokens)
  | "forall" => opens .forallLoop (isOneBracket tokens)
  | "associate" =>
      opens .associate (guarded (1 < tokens.length) (tokens[1]?.map (·.isOp "(")))
  | "block" => opens .block (pure (tokens.length = 1))
  | "critical" => opens .critical (isAloneOr (·.isOp "(") tokens)
  | "enum" => opens .enumeration (guarded (1 < tokens.length) (tokens[1]?.map (·.isOp ",")))
  | _ => pure none

theorem construct?_eq (filled : tokens ≠ []) :
    construct? tokens = some (Statement.construct? tokens) := by
  obtain ⟨first, rest, rfl⟩ := List.exists_cons_of_ne_nil filled
  have alone : rest.head?.all (·.isOp "(") = (rest.isEmpty || Statement.startsBracket rest) := by
    cases rest <;> simp [Statement.startsBracket]
  rw [construct?, Statement.construct?]
  simp only [List.getElem?_cons_zero, Option.bind_eq_bind, Option.bind_some, isAloneOr_eq, alone,
    endsInThen_eq, isOneBracket_eq, guarded_getElem?, List.drop_succ_cons, List.drop_zero,
    ← startsBracket_eq]
  generalize first.word = word
  split <;> simp [opens]

/-! ## Type specifications -/

/-- The value of the first item `KIND=` of a selector. -/
def namedKind? : List (List Token) → Attempt (Option String)
  | [] => pure none
  | item :: rest => do
      let isNamed ← guarded (2 < item.length) do
        pure ((← item[0]?).isWord "kind" && (← item[1]?).isOp "=")
      if isNamed then pure (some (spelling (item.drop 2))) else namedKind? rest

/-- The kind parameter in a bracketed selector. -/
def kindSelector? (typeName : String) (selector : List Token) : Attempt (Option String) := do
  let items := Bracket.items selector
  match ← namedKind? items with
  | some kind => pure (some kind)
  | none =>
      if typeName == "character" then
        pure none
      else
        let first ← if items.isEmpty then pure [] else items[0]?
        if !first.isEmpty && (Bracket.find? "=" first).isNone then
          pure (some (spelling first))
        else
          pure none

theorem namedKind?_eq (items : List (List Token)) :
    namedKind? items = some (items.findSome? fun
      | keyword :: sign :: value :: more =>
          if keyword.isWord "kind" && sign.isOp "=" then some (spelling (value :: more)) else none
      | _ => none) := by
  induction items with
  | nil => rfl
  | cons item rest ih =>
    rw [namedKind?, ih, List.findSome?_cons]
    rcases item with _ | ⟨keyword, _ | ⟨sign, _ | ⟨value, more⟩⟩⟩ <;> simp [guarded]
    by_cases named : keyword.isWord "kind" = true ∧ sign.isOp "=" = true <;> simp [named]

theorem kindSelector?_eq (typeName : String) (selector : List Token) :
    kindSelector? typeName selector = some (Statement.kindSelector? typeName selector) := by
  rw [kindSelector?, Statement.kindSelector?, namedKind?_eq]
  cases List.findSome? _ (Bracket.items selector) with
  | some kind => rfl
  | none =>
    by_cases character : typeName = "character"
    · simp [character]
    · cases Bracket.items selector <;> simp [character, apply_ite some]

/-- Read what follows the name of a type: the kind parameter, and the position
behind the specification. -/
def typeSuffix (name : String) (tokens : List Token) (index : Nat) :
    Attempt (String × Option String × Nat) := do
  if ← guarded (index < tokens.length) (tokens[index]?.map (·.isOp "(")) then
    let close ← matching tokens index
    let kind ←
      if ["type", "class", "procedure"].contains name then pure none
      else kindSelector? name (tokens.extract (index + 1) close)
    pure (name, kind, close + 1)
  else if ← guarded (index + 1 < tokens.length) (tokens[index]?.map fun token =>
      token.isOp "*" && Vocabulary.intrinsicTypes.contains name) then
    let size ← tokens[index + 1]?
    let kind := if name == "character" then none else some size.text
    if size.isOp "(" then
      let close ← matching tokens (index + 1)
      pure (name, kind, close + 1)
    else
      pure (name, kind, index + 2)
  else
    pure (name, none, index)

theorem typeSuffix_eq (name : String) {index : Nat} (inside : index ≤ tokens.length) :
    typeSuffix name tokens index =
      some (name, (Statement.TypeSpec.ofSuffix name (tokens.drop index)).kind,
        tokens.length - (Statement.TypeSpec.ofSuffix name (tokens.drop index)).rest.length) := by
  cases cut : tokens.drop index with
  | nil =>
    have stop : tokens.length = index := Nat.le_antisymm (List.drop_eq_nil_iff.mp cut) inside
    have short : ¬ index + 1 < index := by omega
    simp [typeSuffix, guarded, stop, short, Statement.TypeSpec.ofSuffix]
  | cons token rest =>
    obtain ⟨here, further⟩ := drop_eq_cons_iff.mp cut
    obtain ⟨bound, value⟩ := List.getElem?_eq_some_iff.mp here
    have count : tokens.length = index + 1 + rest.length := by
      have := congrArg List.length further
      rw [List.length_drop] at this
      omega
    by_cases bracket : token.isOp "("
    · have stop := length_sub_length_beyond bound
      have inner := extract_matching tokens index
      rw [cut] at stop inner
      by_cases plain : name = "type" ∨ name = "class" ∨ name = "procedure" <;>
        simp [typeSuffix, guarded, bound, value, bracket, matching_eq bound, stop, plain, inner,
          kindSelector?_eq, Statement.TypeSpec.ofSuffix, - List.extract_eq_take_drop]
    cases rest with
    | nil =>
      have last : index + 1 = tokens.length := by simpa using count.symm
      simp [typeSuffix, guarded, value, bracket, ← last, Statement.TypeSpec.ofSuffix]
    | cons size more =>
      obtain ⟨there, _⟩ := drop_eq_cons_iff.mp further
      obtain ⟨room, size_eq⟩ := List.getElem?_eq_some_iff.mp there
      rw [List.length_cons] at count
      by_cases star : token.isOp "*" = true ∧ name ∈ Vocabulary.intrinsicTypes
      · by_cases opens : size.isOp "("
        · have stop := length_sub_length_beyond room
          rw [further] at stop
          simp [typeSuffix, guarded, bound, room, value, size_eq, bracket, star, opens,
            matching_eq room, stop, Statement.TypeSpec.ofSuffix]
        · have stop : tokens.length - more.length = index + 2 := by omega
          simp [typeSuffix, guarded, bound, room, value, size_eq, bracket, star, opens, stop,
            Statement.TypeSpec.ofSuffix]
      · have stop : tokens.length - (more.length + 1 + 1) = index := by omega
        simp [typeSuffix, guarded, bound, room, value, bracket, star, stop,
          Statement.TypeSpec.ofSuffix]

theorem name_ofSuffix (name : String) (tokens : List Token) :
    (Statement.TypeSpec.ofSuffix name tokens).name = name := by
  fun_cases Statement.TypeSpec.ofSuffix name tokens <;> rfl

/-- Read the type specification at the start of a statement: the type, the kind
parameter, and the position behind the specification. -/
def typeSpec (tokens : List Token) : Attempt (String × Option String × Nat) := do
  let first ← tokens[0]?
  if ← guarded (first.lower = "double")
      (guarded (1 < tokens.length) (tokens[1]?.map (·.isName))) then
    let second ← tokens[1]?
    typeSuffix s!"double {second.lower}" tokens 2
  else
    typeSuffix first.lower tokens 1

theorem typeSpec_eq (filled : tokens ≠ []) :
    typeSpec tokens = some ((Statement.typeSpec tokens).name, (Statement.typeSpec tokens).kind,
      Statement.typeSpecLength tokens) := by
  obtain ⟨first, rest, rfl⟩ := List.exists_cons_of_ne_nil filled
  have suffix (name : String) {index : Nat} (inside : index ≤ (first :: rest).length) :=
    typeSuffix_eq name inside
  rw [Statement.typeSpecLength, Statement.typeSpec.eq_def]
  cases rest with
  | nil => simp [typeSpec, suffix, name_ofSuffix]
  | cons second more =>
    by_cases double : first.lower = "double" ∧ second.isName = true
    · simp [typeSpec, suffix, double, name_ofSuffix]
    · simp [typeSpec, suffix, double, name_ofSuffix]

/-- Whether a statement declares entities of a type. -/
def isDeclaration (tokens : List Token) : Attempt Bool := do
  let first ← tokens[0]?
  if first.isAmong Vocabulary.intrinsicTypes then
    pure true
  else
    guarded (first.isAmong ["type", "class", "procedure"])
      (guarded (1 < tokens.length) (tokens[1]?.map (·.isOp "(")))

theorem isDeclaration_eq (filled : tokens ≠ []) :
    isDeclaration tokens = some (Statement.isDeclaration tokens) := by
  obtain ⟨first, rest, rfl⟩ := List.exists_cons_of_ne_nil filled
  by_cases intrinsic : first.isAmong Vocabulary.intrinsicTypes
  · simp [isDeclaration, Statement.isDeclaration, intrinsic]
  by_cases word : first.isAmong ["type", "class", "procedure"] <;>
    simp [isDeclaration, Statement.isDeclaration, intrinsic, word]

theorem drop_typeSpecLength (tokens : List Token) :
    tokens.drop (Statement.typeSpecLength tokens) = (Statement.typeSpec tokens).rest := by
  have bracket (tokens : List Token) : Bracket.beyond tokens <:+ tokens := List.drop_suffix _ _
  have suffix (name : String) (tokens : List Token) :
      (Statement.TypeSpec.ofSuffix name tokens).rest <:+ tokens := by
    fun_cases Statement.TypeSpec.ofSuffix name tokens
    case case2 => exact bracket _
    case case3 token _ size more _ =>
      dsimp only
      split
      · exact (bracket _).trans (List.suffix_cons _ _)
      · exact (List.suffix_cons size more).trans (List.suffix_cons _ _)
    all_goals exact List.suffix_refl _
  have whole : (Statement.typeSpec tokens).rest <:+ tokens := by
    fun_cases Statement.typeSpec tokens
    case case1 => exact List.suffix_refl _
    case case2 first second more _ =>
      exact (suffix _ _).trans ((List.suffix_cons second more).trans (List.suffix_cons _ _))
    all_goals exact (suffix _ _).trans (List.suffix_cons _ _)
  rw [Statement.typeSpecLength, ← List.suffix_iff_eq_drop.mp whole]

/-- A type specification is not empty, so that a loop over specifications moves
forward. -/
theorem typeSpecLength_pos (first : Token) (rest : List Token) :
    0 < Statement.typeSpecLength (first :: rest) := by
  have := Statement.length_rest_typeSpec_cons_le first rest
  rw [Statement.typeSpecLength, List.length_cons]
  omega

/-! ## Headers of procedures -/

/-- The marks in front of FUNCTION or SUBROUTINE, and the position of that word,
read from a position on. -/
def headerMarks? (tokens : List Token) (marks : List String) (index : Nat) :
    Attempt (Option (List String × Nat)) :=
  if _ : index < tokens.length then do
    let token ← tokens[index]?
    if (Statement.procedureKind? token).isSome then
      pure (some (marks, index))
    else if token.isAmong Vocabulary.procedureMarks then
      headerMarks? tokens (marks ++ [token.lower]) (index + 1)
    else if token.isAmong Vocabulary.intrinsicTypes then
      let (_, _, length) ← typeSpec (tokens.drop index)
      let ⟨_⟩ ← onward index (index + length)
      headerMarks? tokens marks (index + length)
    else if ← guarded (Statement.isDerivedTypeWord token) (guarded (index + 1 < tokens.length)
        (tokens[index + 1]?.map (·.isOp "("))) then
      let (_, _, length) ← typeSpec (tokens.drop index)
      let ⟨_⟩ ← onward index (index + length)
      headerMarks? tokens marks (index + length)
    else
      pure none
  else
    pure none
termination_by tokens.length - index

theorem headerMarks?_eq (tokens : List Token) (marks : List String) (index : Nat) :
    headerMarks? tokens marks index =
      some ((Statement.headerMarks? (tokens.drop index)).map fun (more, tail) =>
        (marks ++ more, tokens.length - tail.length)) := by
  induction index using forward tokens generalizing marks with
  | outside index outside =>
    rw [headerMarks?, dif_neg outside, drop_eq_nil outside, Statement.headerMarks?.eq_def]
    rfl
  | inside index token inside here cut ih =>
    rw [headerMarks?, dif_pos inside, here, cut, Statement.headerMarks?.eq_def]
    have next (marks : List String) := ih (index + 1) (Nat.lt_succ_self index) marks
    have spec : typeSpec (tokens.drop index) = _ := typeSpec_eq (by simp [cut])
    have onwards := cut ▸ typeSpecLength_pos token (tokens.drop (index + 1))
    have moves : index < index + Statement.typeSpecLength (tokens.drop index) := by omega
    have behind := ih _ moves marks
    rw [← List.drop_drop, drop_typeSpecLength] at behind
    rw [cut] at behind spec moves
    by_cases kind : (Statement.procedureKind? token).isSome
    · simp [kind]
      omega
    by_cases mark : token.isAmong Vocabulary.procedureMarks
    · simp [kind, mark, next, Function.comp_def]
    by_cases intrinsic : token.isAmong Vocabulary.intrinsicTypes
    · simp [kind, mark, intrinsic, spec, onward_bind moves, behind]
    · by_cases derived : Statement.isDerivedTypeWord token = true ∧
          tokens[index + 1]?.any (·.isOp "(") = true
      · simp [kind, mark, intrinsic, derived, spec, onward_bind moves, behind]
      · simp [kind, mark, intrinsic, derived]

/-- Behind the marks stands the word for the kind of procedure. -/
theorem suffix_headerMarks? {marks : List String} {tail : List Token}
    (found : Statement.headerMarks? tokens = some (marks, tail)) :
    tail <:+ tokens ∧
      ∃ word rest kind, tail = word :: rest ∧ Statement.procedureKind? word = some kind := by
  fun_induction Statement.headerMarks? tokens generalizing marks with
  | case1 => cases found
  | case2 token rest kind =>
    obtain ⟨kind, known⟩ := Option.isSome_iff_exists.mp kind
    cases found
    exact ⟨List.suffix_refl _, token, rest, kind, rfl, known⟩
  | case3 token rest _ _ ih =>
    obtain ⟨⟨more, tail⟩, read, same⟩ := Option.map_eq_some_iff.mp found
    cases same
    exact ⟨(ih read).1.trans (List.suffix_cons _ _), (ih read).2⟩
  | case4 token rest _ _ _ ih =>
    refine ⟨(ih found).1.trans ?_, (ih found).2⟩
    rw [← drop_typeSpecLength]
    exact List.drop_suffix _ _
  | case5 => cases found

/-- The name in the last RESULT clause, read from a position on. -/
def resultName? (tokens : List Token) (found : Option String) (index : Nat) :
    Attempt (Option String) :=
  if inside : index < tokens.length then do
    let isResult ← guarded (index + 2 < tokens.length) do
      pure ((← tokens[index]?).isWord "result" && (← tokens[index + 1]?).isOp "(")
    if isResult then
      let name ← tokens[index + 2]?
      let close ← matching tokens (index + 1)
      let ⟨_⟩ ← onward index (close + 1)
      resultName? tokens (some name.lower) (close + 1)
    else
      resultName? tokens found (index + 1)
  else
    pure found
termination_by tokens.length - index

/-- The names that stand alone between the commas of an argument list. -/
def argumentNames (tokens : List Token) : Attempt (List Token) :=
  (Bracket.items tokens).filterMapM fun item => do
    if item.length = 1 then
      let token ← item[0]?
      pure (if token.isName then some token else none)
    else
      pure none

/-- Read the header of a procedure. -/
def header? (tokens : List Token) : Attempt (Option Statement.Header) := do
  match ← headerMarks? tokens [] 0 with
  | none => pure none
  | some (marks, index) =>
      if ← guarded (index + 1 < tokens.length) (tokens[index + 1]?.map (·.isName)) then
        let kind ← Statement.procedureKind? (← tokens[index]?)
        let name ← tokens[index + 1]?
        if ← guarded (index + 2 < tokens.length) (tokens[index + 2]?.map (·.isOp "(")) then
          let close ← matching tokens (index + 2)
          let arguments ← argumentNames (tokens.extract (index + 3) close)
          let result ← resultName? tokens none (close + 1)
          pure (some ⟨kind, name, marks, arguments, result⟩)
        else
          let result ← resultName? tokens none (index + 2)
          pure (some ⟨kind, name, marks, [], result⟩)
      else
        pure none

theorem argumentNames_eq (tokens : List Token) :
    argumentNames tokens = some (Statement.argumentNames tokens) := by
  refine (filterMapM_eq (fun item => ?_) _)
  rcases item with _ | ⟨token, _ | ⟨second, rest⟩⟩ <;> simp

theorem resultName?_eq (tokens : List Token) (found : Option String) (index : Nat) :
    resultName? tokens found index = some (Statement.resultName? found (tokens.drop index)) := by
  induction index using forward tokens generalizing found with
  | outside index outside =>
    rw [resultName?, dif_neg outside, drop_eq_nil outside, Statement.resultName?.eq_def]
    rfl
  | inside index token inside here cut ih =>
    have next (found : Option String) := ih (index + 1) (Nat.lt_succ_self index) found
    rw [resultName?, dif_pos inside, here, cut, Statement.resultName?.eq_def]
    cases further : tokens.drop (index + 1) with
    | nil =>
      have short : ¬ index + 2 < tokens.length := by
        have := List.drop_eq_nil_iff.mp further
        omega
      simp [guarded, short, next, further, Statement.resultName?]
    | cons bracket rest =>
      obtain ⟨there, last⟩ := drop_eq_cons_iff.mp further
      obtain ⟨bound, value⟩ := List.getElem?_eq_some_iff.mp there
      cases rest with
      | nil =>
        have short := Nat.not_lt_of_le (List.drop_eq_nil_iff.mp last)
        simp [guarded, short, next, further, Statement.resultName?]
      | cons name more =>
        obtain ⟨room, value'⟩ := List.getElem?_eq_some_iff.mp (drop_eq_cons_iff.mp last).1
        by_cases isResult : token.isWord "result" = true ∧ bracket.isOp "(" = true
        · have after := Nat.lt_succ_of_le (Nat.le_of_lt (le_matching tokens (index + 1)))
          have behind := ih _ after (some name.lower)
          rw [drop_matching, further] at behind
          simp [guarded, bound, value, room, value', isResult, matching_eq bound, behind]
        · simp [guarded, bound, value, room, next, isResult, further]

theorem header?_eq (tokens : List Token) :
    header? tokens = some (Statement.header? tokens) := by
  rw [header?, Statement.header?, headerMarks?_eq, List.drop_zero]
  cases marked : Statement.headerMarks? tokens with
  | none => rfl
  | some found =>
    obtain ⟨marks, tail⟩ := found
    obtain ⟨suffix, word, rest, kind, rfl, known⟩ := suffix_headerMarks? marked
    obtain ⟨here, further⟩ := drop_eq_cons_iff.mp (List.suffix_iff_eq_drop.mp suffix).symm
    simp only [Option.map_some, List.nil_append, Option.bind_eq_bind, Option.bind_some, here]
    generalize tokens.length - (word :: rest).length = index at *
    cases rest with
    | nil =>
      have short := Nat.not_lt_of_le (List.drop_eq_nil_iff.mp further)
      simp [guarded, short]
    | cons name rest =>
      obtain ⟨there, last⟩ := drop_eq_cons_iff.mp further
      obtain ⟨bound, value⟩ := List.getElem?_eq_some_iff.mp there
      by_cases isName : name.isName
      · by_cases bracket : rest.head?.any (·.isOp "(")
        · have room : index + 2 < tokens.length := by
            refine Nat.lt_of_not_le fun outside => ?_
            simp [← last, List.getElem?_eq_none outside] at bracket
          have inner := extract_matching tokens (index + 2)
          rw [last] at inner
          simp [bound, value, isName, known, last, bracket, matching_eq room, argumentNames_eq,
            resultName?_eq, inner, drop_matching, - List.extract_eq_take_drop]
        · simp [bound, value, isName, known, last, bracket, resultName?_eq]
      · simp [bound, value, isName]

end FortranStyle.Position
