import FortranStyle.Proofs.Placement.Reading
import FortranStyle.Proofs.Placement.Rule
import FortranStyle.Proofs.Reading.Faithful
import FortranStyle.Proofs.Sorting.Setting
import FortranStyle.Proofs.Transcription.Moving

/-!
# Places of diagnostics

Every diagnostic points into the file.  The rules on lines count the characters of
a line, and the rules on tokens name a code token.  For the rules on the outline
there is a copy that moves all places but those of the source: it leaves the
statements as they are, so it leaves the outline as it is, and no place that a rule
reads off the outline is one that the copy would move.
-/

namespace FortranStyle

/-- Both ends of a token of a statement have places in the source. -/
theorem Tokenized.hasPlace_of_mem_statements (source : List String) :
    ∀ statement ∈ (ofLines source).statements, ∀ token ∈ statement,
      HasPlace (source.map lineText) token.start ∧ HasPlace (source.map lineText) token.stop := by
  intro statement listed token member
  have inside : token ∈ (ofLines source).statements.flatten :=
    List.mem_flatten_of_mem listed member
  rw [statements, flatten_statementsOf, List.mem_filter] at inside
  exact hasPlace_of_isCode source token inside.1 inside.2

/-! ## A copy that moves all other places -/

namespace Transcription

theorem id_zero : id 0 = 0 :=
  rfl

open Classical in
/-- The copy that keeps the places of some lines and moves all others along their
lines. -/
noncomputable def keeping (texts : List (List Char)) : Transcription :=
  moving id (fun line column => if HasPlace texts (line, column) then column else column + 1)
    id_zero

variable {texts : List (List Char)}

theorem column_keeping_eq_iff {line column : Nat} :
    (keeping texts).column line column = column ↔ HasPlace texts (line, column) := by
  rw [keeping, column_moving]
  split <;> simp [*]

theorem token_keeping {token : Token} (start : HasPlace texts token.start)
    (stop : HasPlace texts token.stop) : (keeping texts).token token = token := by
  have text_eq : (keeping texts).text token.text = token.text := text_moving token.text
  have column_eq : (keeping texts).column token.line token.column = token.column :=
    column_keeping_eq_iff.mpr start
  have endColumn_eq : (keeping texts).column token.endLine token.endColumn = token.endColumn :=
    column_keeping_eq_iff.mpr stop
  rw [Transcription.token, text_eq, column_eq, endColumn_eq]
  rfl

/-- The copy leaves the outline of the source as it is. -/
theorem outline_keeping (source : List String) :
    (keeping (source.map Tokenized.lineText)).outline (.ofTokenized (.ofLines source)) =
      .ofTokenized (.ofLines source) := by
  let copy := keeping (source.map Tokenized.lineText)
  have statement_eq : ∀ statement ∈ (Tokenized.ofLines source).statements,
      statement.map copy.token = statement := by
    intro statement listed
    refine (List.map_congr_left fun token member => ?_).trans (List.map_id statement)
    obtain ⟨start, stop⟩ :=
      Tokenized.hasPlace_of_mem_statements source statement listed token member
    exact token_keeping start stop
  have statements_eq : (Tokenized.ofLines source).statements.map (List.map copy.token) =
      (Tokenized.ofLines source).statements :=
    (List.map_congr_left statement_eq).trans (List.map_id _)
  have copied := copy.ofStatements_tokens (fun _ => rfl)
    (Tokenized.ofLines source).lines.length (Tokenized.ofLines source).statements
  rw [statements_eq] at copied
  exact copied.symm

end Transcription

/-! ## Findings in a file -/

/-- The finding is at a place of the lines. -/
def Finding.PointsInto (finding : Finding) (lines : List String) : Prop :=
  HasPlace (lines.map Tokenized.lineText) (finding.line, finding.column)

/-! ## Rules on lines -/

/-- The indentation of a line is a part of it. -/
theorem Text.indentWidth?_le {text : List Char} {width : Nat}
    (indented : indentWidth? text = some width) : width ≤ text.length := by
  induction text generalizing width with
  | nil =>
    rw [← Option.some.inj indented]
    exact Nat.zero_le _
  | cons c rest ih =>
    rw [indentWidth?] at indented
    split at indented
    · obtain ⟨behind, later, rfl⟩ := Option.map_eq_some_iff.mp indented
      exact Nat.succ_le_succ (ih later)
    · split at indented
      · contradiction
      · rw [← Option.some.inj indented]
        exact Nat.zero_le _

namespace Rule

open Tokenized (lineText)

variable (path : String) (lines : List String)

variable {lines} in
/-- The rules number from one the lines that they see without line ends. -/
theorem hasPlace_of_getElem?_lines {index : Nat} {line : String}
    (found : (Source.ofLines path lines).lines[index]? = some line) {column : Nat}
    (column_pos : 1 ≤ column) (column_le : column ≤ line.toList.length + 1) :
    HasPlace (lines.map lineText) (index + 1, column) :=
  ⟨line.toList, Nat.le_add_left 1 index, Tokenized.getElem?_lines.mp found, column_pos, column_le⟩

theorem pointsInto_of_mem_checkLines {check : List Char → Option (Nat × String)}
    (inside : ∀ text, ∀ found ∈ check text, 1 ≤ found.1 ∧ found.1 ≤ text.length + 1) :
    ∀ finding ∈ checkLines (.ofLines path lines) check, finding.PointsInto lines := by
  intro finding member
  simp only [checkLines, List.mem_filterMap, List.mem_mapIdx, id_eq] at member
  obtain ⟨entry, ⟨index, lt, rfl⟩, checked⟩ := member
  obtain ⟨⟨column, message⟩, found, rfl⟩ := Option.map_eq_some_iff.mp checked
  obtain ⟨column_pos, column_le⟩ := inside _ _ found
  exact hasPlace_of_getElem?_lines path (List.getElem?_eq_getElem lt) column_pos column_le

theorem pointsInto_of_mem_checkLineLength (options : Options) :
    ∀ finding ∈ checkLineLength (.ofLines path lines) options, finding.PointsInto lines := by
  unfold checkLineLength
  refine pointsInto_of_mem_checkLines path lines fun text found checked => ?_
  split at checked
  · rw [← Option.some.inj checked]
    dsimp only
    omega
  · contradiction

theorem pointsInto_of_mem_checkTabs :
    ∀ finding ∈ checkTabs (.ofLines path lines), finding.PointsInto lines := by
  refine pointsInto_of_mem_checkLines path lines fun text found checked => ?_
  obtain ⟨index, tab, rfl⟩ := Option.map_eq_some_iff.mp checked
  have inside := (List.findIdx?_eq_some_iff_findIdx_eq.mp tab).1
  dsimp only
  omega

theorem pointsInto_of_mem_checkTrailingBlanks :
    ∀ finding ∈ checkTrailingBlanks (.ofLines path lines), finding.PointsInto lines := by
  refine pointsInto_of_mem_checkLines path lines fun text found checked => ?_
  have shortened := (Text.dropEndWhile_prefix Text.isBlank text).length_le
  dsimp only at checked
  split at checked
  · contradiction
  · rw [← Option.some.inj checked]
    exact ⟨Nat.le_add_left 1 _, Nat.add_le_add_right shortened 1⟩

theorem pointsInto_of_mem_checkIndent :
    ∀ finding ∈ checkIndent (.ofLines path lines), finding.PointsInto lines := by
  intro finding member
  simp only [checkIndent, List.mem_filterMap, List.mem_mapIdx, id_eq] at member
  obtain ⟨entry, ⟨index, lt, rfl⟩, checked⟩ := member
  have inside : index < (Source.ofLines path lines).lines.length := by
    rw [List.length_zip, Tokenized.indents, List.length_map] at lt
    exact lt_of_lt_of_le lt (min_le_right _ _)
  split at checked
  · rename_i depth indent depth_eq indent_eq
    simp only [List.getElem_zip, Tokenized.indents, List.getElem_map] at indent_eq
    have indent_le := Text.indentWidth?_le indent_eq
    split at checked
    · rw [← Option.some.inj checked]
      exact hasPlace_of_getElem?_lines path (List.getElem?_eq_getElem inside)
        (Nat.le_add_left 1 indent) (Nat.add_le_add_right indent_le 1)
    · contradiction
  · contradiction

/-! ## Rules on tokens -/

theorem pointsInto_of_mem_checkConstructors :
    ∀ finding ∈ checkConstructors (.ofLines path lines), finding.PointsInto lines := by
  intro finding member
  obtain ⟨token, listed, rfl⟩ := List.mem_map.mp member
  obtain ⟨read, opening⟩ := List.mem_filter.mp listed
  have code : token.isCode = true := by
    obtain ⟨operator, -⟩ := Bool.and_eq_true_iff.mp opening
    rw [Token.isCode, beq_iff_eq.mp operator]
    rfl
  exact (Tokenized.hasPlace_of_isCode lines token read code).1

theorem mem_of_mem_stridedNames {tokens : List Token} :
    ∀ token ∈ stridedNames tokens, token ∈ tokens := by
  induction tokens with
  | nil => exact List.forall_mem_nil _
  | cons first rest ih =>
    intro token member
    rw [stridedNames] at member
    split at member
    · rcases List.mem_cons.mp member with rfl | later
      · exact List.mem_cons_self
      · exact List.mem_cons_of_mem _ (ih token later)
    · exact List.mem_cons_of_mem _ (ih token member)

theorem mem_of_mem_withoutNumber {statement : List Token} :
    ∀ token ∈ withoutNumber statement, token ∈ statement := by
  intro token member
  cases statement with
  | nil => exact member
  | cons first rest =>
    rw [withoutNumber] at member
    split at member
    · exact List.mem_cons_of_mem _ member
    · exact member

theorem pointsInto_of_mem_checkSections :
    ∀ finding ∈ checkSections (.ofLines path lines), finding.PointsInto lines := by
  intro finding member
  obtain ⟨statement, listed, found⟩ := List.mem_flatMap.mp member
  dsimp only at found
  split at found
  · contradiction
  · obtain ⟨token, strided, rfl⟩ := List.mem_map.mp found
    exact (Tokenized.hasPlace_of_mem_statements lines statement listed token
      (mem_of_mem_withoutNumber token (mem_of_mem_stridedNames token strided))).1

theorem pointsInto_of_mem_checkLiterals :
    ∀ finding ∈ checkLiterals (.ofLines path lines), finding.PointsInto lines := by
  intro finding member
  obtain ⟨statement, listed, found⟩ := List.mem_flatMap.mp member
  split at found
  · contradiction
  · obtain ⟨token, within, fault⟩ := List.mem_filterMap.mp found
    split at fault
    · obtain ⟨message, -, rfl⟩ := Option.map_eq_some_iff.mp fault
      exact (Tokenized.hasPlace_of_mem_statements lines statement listed token within).1
    · contradiction

/-! ## All rules -/

open Transcription (keeping column_keeping_eq_iff outline_keeping)

/-- Whatever a rule finds is at a place of the source, or it is about the file as a
whole and at its very start. -/
theorem pointsInto_of_mem_findings (options : Options) (rule : Rule) :
    ∀ finding ∈ rule.findings (.ofLines path lines) options,
      finding.PointsInto lines ∨ (finding.line, finding.column) = (1, 1) := by
  intro finding member
  have kept : (keeping (lines.map lineText)).outline (Source.ofLines path lines).outline =
      (Source.ofLines path lines).outline := outline_keeping lines
  have placed (stays : (keeping (lines.map lineText)).Stays finding) : finding.PointsInto lines :=
    column_keeping_eq_iff.mp stays
  cases rule with
  | lineLength => exact .inl (pointsInto_of_mem_checkLineLength path lines options finding member)
  | tabs => exact .inl (pointsInto_of_mem_checkTabs path lines finding member)
  | trailingBlanks => exact .inl (pointsInto_of_mem_checkTrailingBlanks path lines finding member)
  | indentStep => exact .inl (pointsInto_of_mem_checkIndent path lines finding member)
  | constructorStyle => exact .inl (pointsInto_of_mem_checkConstructors path lines finding member)
  | sectionOrder => exact .inl (pointsInto_of_mem_checkSections path lines finding member)
  | literalKind => exact .inl (pointsInto_of_mem_checkLiterals path lines finding member)
  | implicitNone => exact .inl (placed (Transcription.stays_checkImplicitNone kept member))
  | intentRequired => exact .inl (placed (Transcription.stays_checkIntent kept member))
  | sideEffect => exact .inl (placed (Transcription.stays_checkSideEffects kept member))
  | explicitVisibility => exact .inl (placed (Transcription.stays_checkVisibility kept member))
  | onlyRequired => exact .inl (placed (Transcription.stays_checkOnly kept member))
  | usePlacement => exact .inl (placed (Transcription.stays_checkUsePlacement kept member))
  | namePrefix => exact .inl (placed (Transcription.stays_checkNamePrefix kept member))
  | oneUnitPerFile => exact (Transcription.stays_checkOneUnit kept member).imp_left placed
  | setupContract => exact .inl (placed (Transcription.stays_checkSetup kept member))
  | declarationKind => exact .inl (placed (Transcription.stays_checkDeclarationKind kept member))
  | savedVariable => exact .inl (placed (Transcription.stays_checkSaved kept member))
  | automaticArray => exact .inl (placed (Transcription.stays_checkAutomatic kept member))
  | lexError =>
    obtain ⟨error, raised, rfl⟩ := List.mem_map.mp member
    exact .inl (Tokenized.hasPlace_of_mem_errors lines error raised)
  | structuralError => exact .inl (placed (Transcription.stays_structuralError kept member))
  | readError => contradiction
  | settingsError => contradiction
  | unexpectedError => contradiction

end Rule

/-! ## Diagnostics -/

/-- A diagnostic is at the place of something that a rule finds. -/
theorem Source.exists_finding_of_mem_check {source : Source} {settings : Settings}
    {diagnostic : Diagnostic} (member : diagnostic ∈ source.check settings) :
    ∃ rule : Rule, ∃ finding ∈ rule.findings source settings.options,
      diagnostic.line = finding.line ∧ diagnostic.column = finding.column := by
  obtain ⟨rule, judged⟩ := source.mem_check.mp member
  exact ⟨rule, source.exists_finding_of_mem_judge judged⟩

open Tokenized (lineText)

/-- Every diagnostic for the lines of a file is on one of the lines, at one of its
characters or right behind the last one; a file without lines counts as one
line. -/
theorem diagnostics_point_into_file (path : String) (lines : List String) (settings : Settings) :
    ∀ diagnostic ∈ checkLines path lines settings,
      1 ≤ diagnostic.line ∧ diagnostic.line ≤ max 1 lines.length ∧
        (lines ≠ [] → ∃ line, lines[diagnostic.line.toNat - 1]? = some line ∧
          1 ≤ diagnostic.column ∧ diagnostic.column ≤ (lineText line).length + 1) := by
  intro diagnostic member
  obtain ⟨rule, finding, found, line_eq, column_eq⟩ := Source.exists_finding_of_mem_check member
  rw [line_eq, column_eq, Int.toNat_natCast]
  rcases Rule.pointsInto_of_mem_findings path lines settings.options rule finding found with
    ⟨text, line_pos, text_eq, column_pos, column_le⟩ | start
  · rw [List.getElem?_map, Option.map_eq_some_iff] at text_eq
    obtain ⟨line, listed, rfl⟩ := text_eq
    obtain ⟨inside, -⟩ := List.getElem?_eq_some_iff.mp listed
    dsimp only at line_pos inside column_pos column_le
    exact ⟨by omega, by omega, fun _ => ⟨line, listed, by omega, by omega⟩⟩
  · obtain ⟨line_one, column_one⟩ := Prod.mk.inj start
    rw [line_one, column_one]
    refine ⟨le_rfl, by omega, fun nonempty => ?_⟩
    obtain ⟨line, rest, rfl⟩ := List.exists_cons_of_ne_nil nonempty
    exact ⟨line, rfl, le_rfl, by omega⟩

/-- A marker that nothing follows is reported where it stands, not where the file
ends. -/
theorem diagnostics_point_into_file_dangling :
    let lines := ["x = 1 &", "! end"]
    let dangling := Rule.lexError.diagnostic "a.f90" 1 7 LexCause.nothingToContinue.message
    dangling ∈ checkLines "a.f90" lines .default ∧ dangling.line ≤ max 1 lines.length ∧
      ∃ line, lines[dangling.line.toNat - 1]? = some line ∧
        dangling.column ≤ (lineText line).length + 1 := by
  intro lines dangling
  have judged : dangling ∈ (Source.ofLines "a.f90" lines).judge .default .lexError := by
    decide +kernel
  have member : dangling ∈ checkLines "a.f90" lines .default :=
    (Source.mem_check _).mpr ⟨.lexError, judged⟩
  have nonempty : lines ≠ [] := List.cons_ne_nil _ _
  obtain ⟨-, line_le, placed⟩ := diagnostics_point_into_file "a.f90" lines .default dangling member
  obtain ⟨line, listed, -, column_le⟩ := placed nonempty
  exact ⟨member, line_le, line, listed, column_le⟩

end FortranStyle
