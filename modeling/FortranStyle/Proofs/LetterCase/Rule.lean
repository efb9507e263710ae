import FortranStyle.Proofs.LetterCase.Line
import FortranStyle.Proofs.Transcription.Outline
import FortranStyle.Rule.Check

/-!
# Rules and letter case

No rule looks at letter case: every rule finds in a lowered source something at
the same places, in the same order, as in the source.  Only the messages differ,
because they quote the source.
-/

namespace FortranStyle.LetterCase

open Transcription (lowering)

/-! ## Lowered sources -/

/-- Lower the lines and the tokens of a source. -/
def lowerTokenized (source : Tokenized) : Tokenized :=
  { source with
    lines := source.lines.map String.toLower
    tokens := source.tokens.map lowering.token }

/-- Lower a source. -/
def lowerSource (source : Source) : Source where
  path := source.path
  tokenized := lowerTokenized source.tokenized
  outline := lowering.outline source.outline

theorem toList_toLower (text : String) : text.toLower.toList = text.toList.map Char.toLower :=
  String.toList_map

theorem toLower_ofList (text : List Char) :
    (String.ofList text).toLower = .ofList (text.map Char.toLower) := by
  rw [← String.toList_inj, toList_toLower, String.toList_ofList, String.toList_ofList]

/-- The source of lowered lines is the lowered source of the lines. -/
theorem ofLines_lowered (path : String) (lines : List String) :
    Source.ofLines path (lines.map String.toLower) = lowerSource (.ofLines path lines) := by
  have stripped : (lines.map String.toLower).map (fun line =>
        Text.dropEndWhile Text.isLineEnd line.toList) =
      (lines.map fun line => Text.dropEndWhile Text.isLineEnd line.toList).map
        (List.map Char.toLower) := by
    simp only [List.map_map, Function.comp_def, toList_toLower,
      dropEndWhile_lowered isLineEnd_toLower]
  have part_eq := readLines_lowered (Tokenized.nothingAbove 1)
    (lines.map fun line => Text.dropEndWhile Text.isLineEnd line.toList)
  rw [Option.map_none] at part_eq
  have tokenized_eq : Tokenized.ofLines (lines.map String.toLower) =
      lowerTokenized (.ofLines lines) := by
    simp only [Tokenized.ofLines, stripped, part_eq, lowerTokenized, lowerPart]
    simp only [List.map_map, Function.comp_def, toLower_ofList]
  have outline_eq (source : Tokenized) : Outline.ofTokenized (lowerTokenized source) =
      lowering.outline (.ofTokenized source) := by
    have counted : (lowerTokenized source).lines.length = source.lines.length :=
      List.length_map String.toLower
    rw [Outline.ofTokenized, counted, Tokenized.statements, lowerTokenized,
      Transcription.statementsOf_tokens, Transcription.ofStatements_tokens _ fun _ => rfl]
    rfl
  rw [Source.ofLines, tokenized_eq, outline_eq]
  rfl

/-! ## Places -/

/-- The line and the column of a finding. -/
def place (finding : Finding) : Nat × Nat :=
  (finding.line, finding.column)

@[simp]
theorem place_at (token : Token) (message : String) :
    place (.at' token message) = (token.line, token.column) :=
  rfl

/-- A lowered token stands where the token stands. -/
theorem place_at_token (token : Token) (message message' : String) :
    place (.at' (lowering.token token) message) = place (.at' token message') :=
  rfl

@[simp]
theorem line_lowering (line : Nat) : lowering.line line = line :=
  rfl

@[simp]
theorem column_lowering (line column : Nat) : lowering.column line column = column :=
  rfl

/-- Rules find something at the same places. -/
def SamePlaces (findings findings' : List Finding) : Prop :=
  findings.map place = findings'.map place

theorem SamePlaces.one (token : Token) (message message' : String) :
    SamePlaces [.at' (lowering.token token) message] [.at' token message'] :=
  rfl

theorem SamePlaces.append {first first' second second' : List Finding}
    (same : SamePlaces first first') (same' : SamePlaces second second') :
    SamePlaces (first ++ second) (first' ++ second') := by
  rw [SamePlaces, List.map_append, same, same', List.map_append]

section Lists

variable {α β : Type} {items : List α} {image : α → β}

theorem SamePlaces.map {find : β → Finding} {find' : α → Finding}
    (same : ∀ item, place (find (image item)) = place (find' item)) :
    SamePlaces ((items.map image).map find) (items.map find') := by
  simp [SamePlaces, same]

theorem SamePlaces.filterMap {find : β → Option Finding} {find' : α → Option Finding}
    (same : ∀ item, (find (image item)).map place = (find' item).map place) :
    SamePlaces ((items.map image).filterMap find) (items.filterMap find') := by
  simp only [SamePlaces, List.map_filterMap, List.filterMap_map, Function.comp_def, same]

theorem SamePlaces.flatMap {find : β → List Finding} {find' : α → List Finding}
    (same : ∀ item, SamePlaces (find (image item)) (find' item)) :
    SamePlaces ((items.map image).flatMap find) (items.flatMap find') := by
  rw [SamePlaces, List.flatMap_map, List.map_flatMap, List.map_flatMap]
  congr 1
  funext item
  exact same item

theorem SamePlaces.filter {keep : β → Bool} {keep' : α → Bool} {find : β → Finding}
    {find' : α → Finding} (kept : ∀ item, keep (image item) = keep' item)
    (same : ∀ item, place (find (image item)) = place (find' item)) :
    SamePlaces (((items.map image).filter keep).map find) ((items.filter keep').map find') := by
  rw [List.filter_map, show keep ∘ image = keep' from funext kept]
  exact .map same

end Lists

/-! ## Rules on lines -/

variable (source : Source) (options : Options)

theorem checkLines_lowered {check : List Char → Option (Nat × String)}
    (same : ∀ cs, (check (cs.map Char.toLower)).map Prod.fst = (check cs).map Prod.fst) :
    SamePlaces (Rule.checkLines (lowerSource source) check) (Rule.checkLines source check) := by
  have lines_eq : (lowerSource source).lines = source.lines.map String.toLower := rfl
  have numbered (source : Source) : Rule.checkLines source check =
      source.lines.zipIdx.filterMap fun entry =>
        (check entry.1.toList).map fun found => Finding.mk (entry.2 + 1) found.1 found.2 := by
    rw [Rule.checkLines, List.mapIdx_eq_zipIdx_map, List.filterMap_map]
    rfl
  simp only [SamePlaces, numbered, lines_eq, List.zipIdx_map, List.filterMap_map,
    List.map_filterMap]
  congr 1
  funext entry
  obtain ⟨line, index⟩ := entry
  have placed (found : Option (Nat × String)) :
      (found.map fun found => Finding.mk (index + 1) found.1 found.2).map place =
        (found.map Prod.fst).map (Prod.mk (index + 1)) := by
    cases found <;> rfl
  simp only [Function.comp_apply, Prod.map_apply, toList_toLower, id_eq, placed, same]

theorem checkLineLength_lowered :
    SamePlaces (Rule.checkLineLength (lowerSource source) options)
      (Rule.checkLineLength source options) := by
  unfold Rule.checkLineLength
  refine checkLines_lowered source fun cs => ?_
  rw [List.length_map]

theorem checkTabs_lowered :
    SamePlaces (Rule.checkTabs (lowerSource source)) (Rule.checkTabs source) := by
  refine checkLines_lowered source fun cs => ?_
  have tab : (fun c => c == '\t') ∘ Char.toLower = fun c => c == '\t' := by
    funext c
    exact toLower_congr (f := fun c => c == '\t') (by decide) c
  rw [List.findIdx?_map, tab]

theorem checkTrailingBlanks_lowered :
    SamePlaces (Rule.checkTrailingBlanks (lowerSource source))
      (Rule.checkTrailingBlanks source) := by
  refine checkLines_lowered source fun cs => ?_
  have kept : (Text.trimEnd cs).map Char.toLower = cs.map Char.toLower ↔ Text.trimEnd cs = cs := by
    constructor
    · intro same
      have length_eq := congrArg List.length same
      rw [List.length_map, List.length_map] at length_eq
      exact (Text.dropEndWhile_prefix Text.isBlank cs).eq_of_length length_eq
    · exact congrArg (List.map Char.toLower)
  simp only [trimEnd_lowered, kept, List.length_map]

theorem checkIndent_lowered :
    SamePlaces (Rule.checkIndent (lowerSource source)) (Rule.checkIndent source) := by
  have width (cs : List Char) :
      Text.indentWidth? (cs.map Char.toLower) = Text.indentWidth? cs := by
    induction cs with
    | nil => rfl
    | cons c rest ih =>
      have space : c.toLower = ' ' ↔ c = ' ' := toLower_eq_iff (by decide)
      have tab : c.toLower = '\t' ↔ c = '\t' := toLower_eq_iff (by decide)
      simp only [List.map_cons, Text.indentWidth?, space, tab, ih]
  have indents_eq : (lowerSource source).tokenized.indents = source.tokenized.indents := by
    simp [Tokenized.indents, lowerSource, lowerTokenized, toList_toLower, width,
      Function.comp_def]
  rw [Rule.checkIndent, indents_eq]
  rfl

/-! ## Rules on tokens -/

theorem statements_lowerSource : (lowerSource source).tokenized.statements =
    source.tokenized.statements.map (List.map lowering.token) :=
  lowering.statementsOf_tokens source.tokenized.tokens

theorem checkConstructors_lowered :
    SamePlaces (Rule.checkConstructors (lowerSource source)) (Rule.checkConstructors source) :=
  .filter (fun token => lowering.isOp_token (by decide) token) fun _ => rfl

theorem isRange_tokens (subscript : List Token) :
    Rule.isRange (subscript.map lowering.token) = Rule.isRange subscript := by
  simp (disch := decide) [Rule.isRange]

theorem isStrided_tokens (subscripts : List (List Token)) :
    Rule.isStrided (subscripts.map (List.map lowering.token)) = Rule.isStrided subscripts := by
  have ranges : Rule.isRange ∘ List.map lowering.token = Rule.isRange := funext isRange_tokens
  simp [Rule.isStrided, List.dropWhile_map, ranges, List.any_map]

theorem stridedNames_tokens (tokens : List Token) :
    Rule.stridedNames (tokens.map lowering.token) =
      (Rule.stridedNames tokens).map lowering.token := by
  induction tokens with
  | nil => rfl
  | cons token rest ih =>
    simp (disch := decide) only [List.map_cons, Rule.stridedNames, Transcription.kind_token,
      List.head?_map, Option.any_map, Transcription.isOp_token, Transcription.inside_tokens,
      Transcription.items_tokens, isStrided_tokens, ih]
    split <;> rfl

theorem checkSections_lowered :
    SamePlaces (Rule.checkSections (lowerSource source)) (Rule.checkSections source) := by
  rw [Rule.checkSections, statements_lowerSource]
  refine .flatMap fun statement => ?_
  have unnumbered : Rule.withoutNumber (statement.map lowering.token) =
      (Rule.withoutNumber statement).map lowering.token := by
    cases statement with
    | nil => rfl
    | cons first rest =>
      by_cases number : first.kind = .number <;> simp [Rule.withoutNumber, number]
  have bounds (statement : List Token) : Rule.holdsBounds (statement.map lowering.token) =
      Rule.holdsBounds statement := by
    simp [Rule.holdsBounds, Option.any_map]
  simp only [unnumbered, bounds, stridedNames_tokens]
  split
  · rfl
  · exact .map fun _ => rfl

theorem contains_lowered {c : Char} (other : c.isAlpha = false) (cs : List Char) :
    (cs.map Char.toLower).contains c = cs.contains c := by
  rw [Bool.eq_iff_iff, List.contains_iff_mem, List.contains_iff_mem, List.mem_map]
  simp only [toLower_eq_iff other, exists_eq_right]

theorem literalFault?_lowered (text : String) :
    (Rule.literalFault? (lowering.text text)).isSome = (Rule.literalFault? text).isSome := by
  let inBody (c : Char) : Bool := c != '_'
  have other : ∀ c : Char, inBody c.toLower = inBody c := toLower_congr (by decide)
  have body_eq := takeWhile_lowered other text.toList
  have suffix_eq := dropWhile_lowered other text.toList
  have text_eq : (lowering.text text).toList = text.toList.map Char.toLower :=
    lowering.toList_text text
  have letters_eq (body : List Char) :
      Text.lower (.ofList (body.map Char.toLower)) = Text.lower (.ofList body) := by
    have copied := lowering.lower_copy (.ofList body)
    rwa [String.toList_ofList] at copied
  simp only [Rule.literalFault?, text_eq]
  rw [body_eq, suffix_eq]
  simp only [← List.map_drop, letters_eq, contains_lowered (c := '.') (by decide),
    List.isEmpty_map]
  split
  · rfl
  · split
    · rfl
    · split <;> rfl

theorem checkLiterals_lowered :
    SamePlaces (Rule.checkLiterals (lowerSource source)) (Rule.checkLiterals source) := by
  rw [Rule.checkLiterals, statements_lowerSource]
  refine .flatMap fun statement => ?_
  have isFormat_eq : Rule.isFormat (statement.map lowering.token) = Rule.isFormat statement := by
    simp [Rule.isFormat, ← List.map_take, List.find?_map, Option.any_map, Function.comp_def]
  rw [isFormat_eq]
  split
  · rfl
  · refine .filterMap fun token => ?_
    rw [Transcription.kind_token, Transcription.text_token]
    split
    · have fault := literalFault?_lowered token.text
      have placed (found : Option String) (token : Token) :
          (found.map (Finding.at' token)).map place =
            if found.isSome then some (token.line, token.column) else none := by
        cases found <;> rfl
      rw [placed, placed, fault]
      rfl
    · rfl

/-! ## Rules on program units -/

theorem outline_lowerSource :
    (lowerSource source).outline = lowering.outline source.outline :=
  rfl

theorem checkImplicitNone_lowered :
    SamePlaces (Rule.checkImplicitNone (lowerSource source)) (Rule.checkImplicitNone source) :=
  .filter (fun _ => rfl) fun _ => rfl

theorem checkOneUnit_lowered :
    SamePlaces (Rule.checkOneUnit (lowerSource source)) (Rule.checkOneUnit source) := by
  have topLevel_eq : (lowerSource source).outline.topLevel =
      source.outline.topLevel.map lowering.heading := rfl
  rw [Rule.checkOneUnit, Rule.checkOneUnit, topLevel_eq]
  rcases source.outline.topLevel with _ | ⟨first, _ | ⟨second, rest⟩⟩
  · rfl
  · rfl
  · exact .one second.token _ _

theorem checkDefaultAccess_lowered (module : ProgramUnit) :
    SamePlaces (Rule.checkDefaultAccess (lowering.programUnit module))
      (Rule.checkDefaultAccess module) := by
  have default_eq : (lowering.programUnit module).access.map (·.1) = module.access.map (·.1) := by
    simp [Transcription.programUnit, Function.comp_def]
  have place_eq : ((lowering.programUnit module).access.map (·.2)).getD
        (lowering.programUnit module).token =
      lowering.token ((module.access.map (·.2)).getD module.token) := by
    cases access : module.access <;> simp [Transcription.programUnit, access]
  have none_public : (lowering.programUnit module).publicNames.isEmpty =
      module.publicNames.isEmpty := by
    simp [Transcription.programUnit]
  simp only [Rule.checkDefaultAccess, default_eq, place_eq, none_public,
    Transcription.publicSymbols_programUnit, Transcription.isListedPublic_programUnit]
  split
  · split
    · rfl
    · exact .one _ _ _
  · split
    · exact .one _ _ _
    · rfl

theorem checkListedNames_lowered (module : ProgramUnit) :
    SamePlaces (Rule.checkListedNames (lowering.programUnit module))
      (Rule.checkListedNames module) := by
  have opens : (lowering.programUnit module).specification.uses.any (·.only.isNone) =
      module.specification.uses.any (·.only.isNone) := by
    simp [Transcription.programUnit, Transcription.specification, Transcription.use,
      List.any_map, Function.comp_def]
  rw [Rule.checkListedNames, Rule.checkListedNames, opens]
  split
  · rfl
  · exact .filter (fun pair => by simp) fun pair => rfl

theorem checkVisibility_lowered :
    SamePlaces (Rule.checkVisibility (lowerSource source)) (Rule.checkVisibility source) := by
  rw [Rule.checkVisibility, outline_lowerSource, Transcription.modules_outline]
  exact .flatMap fun module =>
    (checkDefaultAccess_lowered module).append (checkListedNames_lowered module)

theorem checkNamePrefix_lowered :
    SamePlaces (Rule.checkNamePrefix (lowerSource source)) (Rule.checkNamePrefix source) := by
  rw [Rule.checkNamePrefix, outline_lowerSource, Transcription.modules_outline]
  refine .flatMap fun module => .filterMap fun procedure => ?_
  have prefix_eq : (lowering.procedure procedure).namePrefix = procedure.namePrefix := by
    rw [Procedure.namePrefix, Transcription.procedure_eq]
    simp [Procedure.namePrefix, Function.comp_def]
  simp only [prefix_eq, Transcription.visibility_procedure, Transcription.lowerName_procedure]
  cases procedure.namePrefix with
  | none => rfl
  | some first =>
    simp only
    split <;> simp

theorem checkSetup_lowered :
    SamePlaces (Rule.checkSetup (lowerSource source) options)
      (Rule.checkSetup source options) := by
  rw [Rule.checkSetup, outline_lowerSource, Transcription.modules_outline, List.filter_map]
  have named : ((fun module : ProgramUnit =>
        Text.lower module.name == Text.lower options.setupModule) ∘ lowering.programUnit) =
      fun module => Text.lower module.name == Text.lower options.setupModule := by
    funext module
    rw [Function.comp_apply, Transcription.name_programUnit, Transcription.lower_text]
  rw [named]
  refine .flatMap fun module => ?_
  have held : (lowering.programUnit module).procedures.map (·.lowerName) =
      module.procedures.map (·.lowerName) := by
    simp [Transcription.programUnit, Function.comp_def]
  simp only [Rule.checkSetupModule, held, Transcription.publicSymbols_programUnit,
    Transcription.symbolToken_programUnit]
  refine .append ?_ ?_
  · rw [SamePlaces, List.map_map, List.map_map]
    exact List.map_congr_left fun name _ => place_at_token (module.symbolToken name) _ _
  · rw [SamePlaces, List.map_map, List.map_map]
    exact List.map_congr_left fun name _ => place_at_token module.token _ _

/-! ## Rules on statements -/

theorem checkOnly_lowered :
    SamePlaces (Rule.checkOnly (lowerSource source) options) (Rule.checkOnly source options) := by
  rw [Rule.checkOnly, outline_lowerSource, Transcription.specifications_outline, List.flatMap_map]
  have uses_eq : (source.outline.specifications.flatMap fun pair =>
        (Prod.map lowering.specification (Option.map lowering.procedure) pair).1.uses) =
      (source.outline.specifications.flatMap (·.1.uses)).map lowering.use := by
    rw [List.map_flatMap]
    rfl
  rw [uses_eq]
  refine .filter (fun item => ?_) fun item => place_at_token item.token _ _
  rw [Options.exemptsFromOnly, Options.exemptsFromOnly, Transcription.use,
    Transcription.text_token, Transcription.lower_text]

theorem checkUsePlacement_lowered :
    SamePlaces (Rule.checkUsePlacement (lowerSource source)) (Rule.checkUsePlacement source) :=
  .map fun _ => rfl

theorem checkIntent_lowered :
    SamePlaces (Rule.checkIntent (lowerSource source)) (Rule.checkIntent source) := by
  rw [Rule.checkIntent, outline_lowerSource, Transcription.procedures_outline]
  refine .flatMap fun (procedure, holder) => ?_
  simp only [Prod.map_apply, Transcription.arguments_procedure]
  exact .filter (fun argument => rfl) fun argument => place_at_token argument.token _ _

theorem checkSideEffects_lowered :
    SamePlaces (Rule.checkSideEffects (lowerSource source)) (Rule.checkSideEffects source) := by
  rw [Rule.checkSideEffects, outline_lowerSource, Transcription.hosted_outline]
  refine .flatMap fun (procedure, host) => ?_
  simp only [Prod.map_apply, Transcription.kind_procedure, id_eq,
    Transcription.sideEffects_procedure]
  split
  · exact .map fun _ => rfl
  · rfl

theorem suffix?_token (token : Token) :
    Declaration.suffix? (lowering.token token) = Declaration.suffix? token := by
  let inBody (c : Char) : Bool := c != '_'
  have other : ∀ c : Char, inBody c.toLower = inBody c := toLower_congr (by decide)
  have suffix_eq := dropWhile_lowered other token.text.toList
  have text_eq : (lowering.text token.text).toList = token.text.toList.map Char.toLower :=
    lowering.toList_text token.text
  have small (suffix : List Char) :
      Text.lower (.ofList (suffix.map Char.toLower)) = Text.lower (.ofList suffix) := by
    have copied := lowering.lower_copy (.ofList suffix)
    rwa [String.toList_ofList] at copied
  simp only [Declaration.suffix?, Transcription.kind_token, Transcription.text_token, text_eq]
  rw [suffix_eq, ← List.map_drop, small, contains_lowered (by decide)]

theorem literalKinds_declaration (declaration : Declaration) :
    (lowering.declaration declaration).literalKinds =
      declaration.literalKinds.map (Prod.map id lowering.token) := by
  simp only [Declaration.literalKinds, Transcription.declaration, List.filterMap_map,
    List.map_filterMap, Function.comp_def, suffix?_token, Option.map_map, Prod.map_apply, id_eq]

theorem checkDeclarationKind_lowered :
    SamePlaces (Rule.checkDeclarationKind (lowerSource source))
      (Rule.checkDeclarationKind source) := by
  rw [Rule.checkDeclarationKind, outline_lowerSource, Transcription.declarations_outline]
  refine .flatMap fun (declaration, holder) => ?_
  simp only [Prod.map_apply, Transcription.typeName_declaration]
  by_cases required : Rule.kindRequired.contains declaration.typeName = true
  · simp only [required, if_true]
    have kind_eq : (lowering.declaration declaration).kind =
        declaration.kind.map lowering.text := rfl
    rw [kind_eq]
    cases declaration.kind with
    | none => exact .one declaration.token _ _
    | some kind =>
      simp only [Option.map_some, Transcription.lower_text, literalKinds_declaration]
      exact .filter (fun _ => rfl) fun (suffix, token) => place_at_token token _ _
  · simp only [required, Bool.false_eq_true, if_false, SamePlaces]

theorem isSavedSilently_lowered (declaration : Declaration) (holder : Option Procedure) :
    Rule.isSavedSilently (lowering.declaration declaration) (holder.map lowering.procedure) =
      Rule.isSavedSilently declaration holder := by
  have initialized : (lowering.declaration declaration).isInitialized =
      declaration.isInitialized := by
    simp [Declaration.isInitialized, Transcription.declaration]
  have constant : (lowering.declaration declaration).isParameter = declaration.isParameter := rfl
  simp [Rule.isSavedSilently, Option.any_map, initialized, constant]

theorem checkSaved_lowered :
    SamePlaces (Rule.checkSaved (lowerSource source)) (Rule.checkSaved source) := by
  rw [Rule.checkSaved, outline_lowerSource, Transcription.specifications_outline,
    Transcription.declarations_outline]
  refine .append (.flatMap fun (specification, holder) => ?_)
    (.filterMap fun (declaration, holder) => ?_)
  · exact .map fun token => place_at_token token _ _
  · simp only [Prod.map_apply, Transcription.has_declaration, isSavedSilently_lowered]
    by_cases saved : declaration.has "save" = true
    · rw [if_pos saved, if_pos saved]
      exact congrArg some (place_at_token declaration.token _ _)
    · rw [if_neg saved, if_neg saved]
      split
      · exact congrArg some (place_at_token declaration.token _ _)
      · rfl

theorem checkAutomatic_lowered :
    SamePlaces (Rule.checkAutomatic (lowerSource source)) (Rule.checkAutomatic source) := by
  rw [Rule.checkAutomatic, outline_lowerSource, Transcription.declarations_outline]
  exact .filter (fun _ => rfl) fun (declaration, holder) => place_at_token declaration.token _ _

/-! ## All rules -/

/-- Every rule finds something at the same places of a lowered source. -/
theorem findings_lowered (rule : Rule) :
    SamePlaces (rule.findings (lowerSource source) options) (rule.findings source options) := by
  cases rule with
  | lineLength => exact checkLineLength_lowered source options
  | tabs => exact checkTabs_lowered source
  | trailingBlanks => exact checkTrailingBlanks_lowered source
  | indentStep => exact checkIndent_lowered source
  | constructorStyle => exact checkConstructors_lowered source
  | sectionOrder => exact checkSections_lowered source
  | literalKind => exact checkLiterals_lowered source
  | implicitNone => exact checkImplicitNone_lowered source
  | intentRequired => exact checkIntent_lowered source
  | sideEffect => exact checkSideEffects_lowered source
  | explicitVisibility => exact checkVisibility_lowered source
  | onlyRequired => exact checkOnly_lowered source options
  | usePlacement => exact checkUsePlacement_lowered source
  | namePrefix => exact checkNamePrefix_lowered source
  | oneUnitPerFile => exact checkOneUnit_lowered source
  | setupContract => exact checkSetup_lowered source options
  | declarationKind => exact checkDeclarationKind_lowered source
  | savedVariable => exact checkSaved_lowered source
  | automaticArray => exact checkAutomatic_lowered source
  | lexError => rfl
  | structuralError => exact .map fun _ => rfl
  | readError => rfl
  | settingsError => rfl
  | unexpectedError => rfl

end FortranStyle.LetterCase
