import FortranStyle.Proofs.Position.Statement
import FortranStyle.Rule.Check

/-!
# Rules by position

A few rules ask for items by their position: the indentation of a line, the tokens of
a statement, the second unit of a file, the second part of a literal, the token of a
name.  The others go through lists from the front.
-/

namespace FortranStyle.Position

/-! ## Going through a list -/

/-- Put together what a reader finds in the items of a list. -/
def collect {α β : Type} (read : α → Attempt (List β)) (items : List α) : Attempt (List β) :=
  (items.mapM read).map List.flatten

theorem collect_eq {α β : Type} {read : α → Attempt (List β)} {answer : α → List β}
    {items : List α} (reads : ∀ item ∈ items, read item = some (answer item)) :
    collect read items = some (items.flatMap answer) := by
  induction items with
  | nil => rfl
  | cons item rest ih =>
    rw [List.forall_mem_cons] at reads
    have later := ih reads.2
    rw [collect, Option.map_eq_some_iff] at later
    obtain ⟨lists, read_eq, flat_eq⟩ := later
    rw [collect, List.mapM_cons, reads.1, read_eq, List.flatMap_cons, ← flat_eq]
    rfl

/-- Going through one list, and asking another, which is no shorter, for the item at
the same position. -/
theorem filterMapM_zipIdx {α β γ : Type} {items : List β}
    {read : α × Nat → Attempt (Option γ)} {answer : Nat → α × β → Option γ}
    (reads : ∀ index first item, items[index]? = some item →
      read (first, index) = some (answer index (first, item)))
    (firsts : List α) (start : Nat) (short : start + firsts.length ≤ items.length) :
    (firsts.zipIdx start).filterMapM read =
      some (((firsts.zip (items.drop start)).mapIdx fun index pair =>
        answer (start + index) pair).filterMap id) := by
  induction firsts generalizing start with
  | nil => rfl
  | cons first rest ih =>
    rw [List.length_cons] at short
    have inside : start < items.length := by omega
    obtain ⟨item, here, cut⟩ := exists_drop_eq_cons inside
    have shift (index : Nat) : start + 1 + index = start + (index + 1) := by omega
    rw [List.zipIdx_cons, List.filterMapM_cons, reads start first item here,
      ih (start + 1) (by omega), cut, List.zip_cons_cons, List.mapIdx_cons, List.filterMap_cons]
    simp only [shift, Nat.add_zero, id]
    cases answer start (first, item) <;> rfl

/-! ## Lines -/

/-- What is wrong with the indentation of a line, given its depth. -/
def indentFault? (index : Nat) : Option Nat × Option Nat → Option Finding
  | (depth?, indent?) =>
    match depth?, indent? with
    | some depth, some indent =>
        if indent ≠ 2 * depth then
          some ⟨index + 1, indent + 1,
            s!"Indented by {indent} spaces; expected {2 * depth} " ++ s!"at nesting depth {depth}"⟩
        else
          none
    | _, _ => none

/-- What is wrong with the line at a position.  Its indentation is asked for only
when the line has a depth. -/
def lineFault? (indents : List (Option Nat)) : Option Nat × Nat → Attempt (Option Finding)
  | (none, _) => pure none
  | (some depth, index) => do
      pure (indentFault? index (some depth, ← indents[index]?))

/-- The rule of indentation. -/
def checkIndent (source : Source) : Attempt (List Finding) :=
  source.outline.lineDepths.zipIdx.filterMapM (lineFault? source.tokenized.indents)

theorem checkIndent_eq {source : Source}
    (short : source.outline.lineDepths.length ≤ source.tokenized.indents.length) :
    checkIndent source = some (Rule.checkIndent source) := by
  have reads (index : Nat) (depth indent : Option Nat)
      (here : source.tokenized.indents[index]? = some indent) :
      lineFault? source.tokenized.indents (depth, index) =
        some (indentFault? index (depth, indent)) := by
    cases depth with
    | none => rfl
    | some depth => rw [lineFault?, here]; rfl
  rw [checkIndent, filterMapM_zipIdx reads _ 0 (by rwa [Nat.zero_add]), List.drop_zero]
  simp only [Nat.zero_add]
  rfl

/-! ## Statements -/

/-- The names from a position on that are followed by a bracket and are strided
sections. -/
def stridedNames (statement : List Token) (index : Nat) : Attempt (List Token) :=
  if inside : index + 1 < statement.length then do
    let token ← statement[index]?
    let later ← stridedNames statement (index + 1)
    if ← guarded (token.kind == .identifier) (statement[index + 1]?.map (·.isOp "(")) then
      let close ← matching statement (index + 1)
      let subscripts := Bracket.items (statement.extract (index + 2) close)
      pure (if Rule.isStrided subscripts then token :: later else later)
    else
      pure later
  else
    pure []
termination_by statement.length - index

theorem stridedNames_eq (statement : List Token) (index : Nat) :
    stridedNames statement index = some (Rule.stridedNames (statement.drop index)) := by
  induction index using forward statement with
  | outside index outside =>
    rw [stridedNames, dif_neg (by omega), drop_eq_nil outside]
    rfl
  | inside index token inside here cut ih =>
    rw [stridedNames, cut, Rule.stridedNames]
    have later := ih (index + 1) (Nat.lt_succ_self index)
    by_cases room : index + 1 < statement.length
    · have inner := extract_matching statement (index + 1)
      by_cases name : token.kind = .identifier
      · by_cases bracket : statement[index + 1].isOp "(" = true
        · simp [room, here, later, name, bracket, matching_eq room, inner,
            - List.extract_eq_take_drop]
        · simp [room, here, later, name, bracket]
      · simp [room, here, later, name]
    · have last := drop_eq_nil room
      simp [room, last, Rule.stridedNames]

/-- The strided sections of a statement. -/
def sectionNames (statement : List Token) : Attempt (List Token) := do
  let isLabelled := (← statement[0]?).kind == .number
  let statement := if isLabelled then statement.drop 1 else statement
  if statement.isEmpty then
    pure []
  else if (← statement[0]?).isAmong Vocabulary.boundsWords || (← isDeclaration statement) then
    pure []
  else
    stridedNames statement 0

theorem sectionNames_eq {statement : List Token} (filled : statement ≠ []) :
    sectionNames statement =
      some (if Rule.holdsBounds (Rule.withoutNumber statement) then []
        else Rule.stridedNames (Rule.withoutNumber statement)) := by
  obtain ⟨first, rest, rfl⟩ := List.exists_cons_of_ne_nil filled
  rw [sectionNames, Rule.withoutNumber, Rule.holdsBounds]
  by_cases label : first.kind = .number
  · cases rest with
    | nil => simp [label, Rule.stridedNames]
    | cons second more =>
      by_cases bounds : second.isAmong Vocabulary.boundsWords <;>
        simp [label, bounds, isDeclaration_eq, stridedNames_eq, apply_ite some]
  · by_cases bounds : first.isAmong Vocabulary.boundsWords <;>
      simp [label, bounds, isDeclaration_eq, stridedNames_eq, apply_ite some]

/-- The rule on array sections. -/
def checkSections (source : Source) : Attempt (List Finding) :=
  collect (fun statement => do
    pure ((← sectionNames statement).map fun token => Finding.at' token
      (s!"Section of '{token.text}' has a scalar subscript before a ':' subscript; " ++
        "put the contiguous dimension first")))
    source.tokenized.statements

theorem checkSections_eq {source : Source}
    (filled : ∀ statement ∈ source.tokenized.statements, statement ≠ []) :
    checkSections source = some (Rule.checkSections source) := by
  apply collect_eq
  intro statement within
  rw [sectionNames_eq (filled statement within)]
  dsimp only
  split <;> rfl

/-- Whether a FORMAT statement stands here. -/
def isFormat (statement : List Token) : Attempt Bool :=
  let words := (statement.take 2).filter (·.isName)
  guarded (0 < words.length) (words[0]?.map (·.isWord "format"))

theorem isFormat_eq (statement : List Token) :
    isFormat statement = some (Rule.isFormat statement) := by
  rw [isFormat, guarded_getElem?, List.drop_zero, List.head?_filter, Rule.isFormat]

/-- The rule on real literals. -/
def checkLiterals (source : Source) : Attempt (List Finding) :=
  collect (fun statement => do
    if ← isFormat statement then
      pure []
    else
      pure (statement.filterMap fun token =>
        if token.kind == .number then
          (Rule.literalFault? token.text).map (Finding.at' token)
        else
          none))
    source.tokenized.statements

theorem checkLiterals_eq (source : Source) :
    checkLiterals source = some (Rule.checkLiterals source) := by
  apply collect_eq
  intro statement _
  simp only [isFormat_eq, Option.bind_eq_bind, Option.bind_some]
  split <;> rfl

/-! ## The outline -/

/-- The rule of one unit in a file. -/
def checkOneUnit (source : Source) : Attempt (List Finding) :=
  let topLevel := source.outline.topLevel
  if topLevel.isEmpty then
    pure [⟨1, 1, "File contains no program unit or procedure"⟩]
  else if topLevel.length = 1 then
    pure []
  else do
    let second ← topLevel[1]?
    pure [Finding.at' second.token
      (s!"File holds {topLevel.length} top-level units; {second.kind.word} " ++
        s!"'{second.token.text}' should be in a file of its own")]

theorem checkOneUnit_eq (source : Source) :
    checkOneUnit source = some (Rule.checkOneUnit source) := by
  rw [checkOneUnit, Rule.checkOneUnit]
  rcases source.outline.topLevel with _ | ⟨first, _ | ⟨second, rest⟩⟩
  · rfl
  · rfl
  · simp [Nat.add_assoc]

/-- The token where a name of a module is made public or defined. -/
def symbolToken (module : ProgramUnit) (name : String) : Attempt Token :=
  if module.publicNames.any (·.1 == name) then
    module.publicNames.lookup name
  else
    pure (({ module with publicNames := [] } : ProgramUnit).symbolToken name)

theorem symbolToken_eq (module : ProgramUnit) (name : String) :
    symbolToken module name = some (module.symbolToken name) := by
  have listed (names : List (String × Token)) :
      names.lookup name = ((names.filter (·.1 == name)).map (·.2)).head? := by
    induction names with
    | nil => rfl
    | cons entry rest ih =>
      obtain ⟨first, token⟩ := entry
      by_cases same : name = first
      · simp [same]
      · simp [List.lookup_cons, beq_false_of_ne same, Ne.symm same, ih]
  rw [symbolToken, ProgramUnit.symbolToken, ProgramUnit.symbolToken, listed]
  cases found : module.publicNames.filter (·.1 == name) with
  | nil =>
    have unlisted : module.publicNames.any (·.1 == name) = false := by
      simpa [List.filter_eq_nil_iff] using found
    simp [unlisted]
  | cons entry rest =>
    have within : entry ∈ module.publicNames.filter (·.1 == name) := by simp [found]
    have isListed : module.publicNames.any (·.1 == name) = true :=
      List.any_eq_true.mpr ⟨entry, List.mem_filter.mp within⟩
    simp [isListed]

/-- What is wrong with the setup module. -/
def checkSetupModule (options : Options) (module : ProgramUnit) : Attempt (List Finding) := do
  let expected := options.setupProcedures.map Text.lower
  let exposed := module.publicSymbols
  let procedures := module.procedures.map (·.lowerName)
  let missing := expected.filter fun name => !exposed.contains name || !procedures.contains name
  let surplus ← (Text.sortedSet (exposed.filter (!expected.contains ·))).mapM fun name => do
    pure (Finding.at' (← symbolToken module name)
      (s!"Setup module '{module.name}' exposes '{name}'; only " ++ ", ".intercalate expected ++
        " may be public"))
  pure (surplus ++ missing.map fun name =>
    Finding.at' module.token
      s!"Setup module '{module.name}' does not expose a procedure named '{name}'")

/-- The rule on setup modules. -/
def checkSetup (source : Source) (options : Options) : Attempt (List Finding) :=
  collect (checkSetupModule options) (source.outline.modules.filter fun module =>
    Text.lower module.name == Text.lower options.setupModule)

theorem checkSetup_eq (source : Source) (options : Options) :
    checkSetup source options = some (Rule.checkSetup source options) := by
  apply collect_eq
  intro module _
  simp only [checkSetupModule, symbolToken_eq, Option.bind_eq_bind, Option.bind_some]
  rw [List.mapM_pure]
  rfl

/-- A text cut at the first mark, if there is one. -/
def splitOnce (mark : Char) (text : List Char) : List (List Char) :=
  if text.contains mark then
    [text.takeWhile (· != mark), (text.dropWhile (· != mark)).drop 1]
  else
    [text]

/-- The kind suffix of a numeric literal. -/
def suffix? (token : Token) : Attempt (Option String) :=
  if token.kind == .number && token.text.toList.contains '_' then do
    pure (some (Text.lower (String.ofList (← (splitOnce '_' token.text.toList)[1]?))))
  else
    pure none

theorem suffix?_eq (token : Token) : suffix? token = some (Declaration.suffix? token) := by
  rw [suffix?, Declaration.suffix?]
  split
  · rename_i isSuffixed
    have marked := ((Bool.and_eq_true _ _).mp isSuffixed).2
    rw [splitOnce, if_pos marked]
    rfl
  · rfl

/-- The kind suffixes of the numbers in a run. -/
def literalKinds (tokens : List Token) : Attempt (List (String × Token)) :=
  tokens.filterMapM fun token => do
    pure ((← suffix? token).map (·, token))

theorem literalKinds_eq (declaration : Declaration) :
    literalKinds declaration.initializer = some declaration.literalKinds :=
  filterMapM_eq (fun token => by rw [suffix?_eq]; rfl) _

/-- What is wrong with the kind of a declared name. -/
def kindFindings (declaration : Declaration) : Attempt (List Finding) :=
  if Rule.kindRequired.contains declaration.typeName then
    match declaration.kind with
    | none =>
        pure [Finding.at' declaration.token
          (s!"'{declaration.name}' is declared {Text.upper declaration.typeName} without a " ++
            "kind parameter")]
    | some kind => do
        let declared := Text.lower kind
        pure (((← literalKinds declaration.initializer).filter (·.1 != declared)).map
          fun (suffix, token) =>
            Finding.at' token
              (s!"Initializer {token.text} has kind '{suffix}' but '{declaration.name}' is " ++
                s!"declared with kind '{declared}'"))
  else
    pure []

/-- The rule on the kinds of declarations. -/
def checkDeclarationKind (source : Source) : Attempt (List Finding) :=
  collect (fun (declaration, _) => kindFindings declaration) source.outline.declarations

theorem checkDeclarationKind_eq (source : Source) :
    checkDeclarationKind source = some (Rule.checkDeclarationKind source) := by
  apply collect_eq
  rintro ⟨declaration, holder⟩ _
  dsimp only
  rw [kindFindings]
  split
  · cases declaration.kind with
    | none => rfl
    | some kind => rw [literalKinds_eq]; rfl
  · rfl

/-! ## All rules -/

/-- What a rule finds in a source. -/
def findings (source : Source) (options : Options) : Rule → Attempt (List Finding)
  | .indentStep => checkIndent source
  | .sectionOrder => checkSections source
  | .literalKind => checkLiterals source
  | .oneUnitPerFile => checkOneUnit source
  | .setupContract => checkSetup source options
  | .declarationKind => checkDeclarationKind source
  | rule => pure (rule.findings source options)

/-- No rule fails on a source whose lines with a depth have an indentation and whose
statements have a first token. -/
theorem findings_eq {source : Source}
    (short : source.outline.lineDepths.length ≤ source.tokenized.indents.length)
    (filled : ∀ statement ∈ source.tokenized.statements, statement ≠ [])
    (options : Options) (rule : Rule) :
    findings source options rule = some (rule.findings source options) := by
  cases rule with
  | indentStep => exact checkIndent_eq short
  | sectionOrder => exact checkSections_eq filled
  | literalKind => exact checkLiterals_eq source
  | oneUnitPerFile => exact checkOneUnit_eq source
  | setupContract => exact checkSetup_eq source options
  | declarationKind => exact checkDeclarationKind_eq source
  | _ => rfl

end FortranStyle.Position
