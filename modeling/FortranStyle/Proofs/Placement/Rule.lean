import FortranStyle.Proofs.Transcription.Outline
import FortranStyle.Rule.Check

/-!
# Places that a rule on the outline speaks of

A copy of an outline has a copy of every token of it, wherever the outline holds
the token.  So a copy that leaves an outline as it is leaves every token in it as
it is, and with it every place that a rule on the outline speaks of.

Copies tell in this way which places an outline can hold at all: a copy that moves
all places but those of the statements leaves the outline of the statements as it
is.
-/

namespace FortranStyle

/-- A change of elements that leaves a list as it is leaves its elements as they
are. -/
theorem kept_of_mem {α : Type} {f : α → α} {items : List α} (kept : items.map f = items) {item : α}
    (member : item ∈ items) : f item = item :=
  List.map_inj_left.mp (kept.trans (List.map_id items).symm) item member

namespace Transcription

/-- The copy leaves the place of a finding alone. -/
def Stays (copy : Transcription) (finding : Finding) : Prop :=
  copy.column finding.line finding.column = finding.column

variable {copy : Transcription} {source : Source} {options : Options} {finding : Finding}

theorem stays_at {token : Token} (kept : copy.token token = token) (message : String) :
    copy.Stays (.at' token message) :=
  congrArg Token.column kept

/-! ## Program units -/

section ProgramUnits

variable {module : ProgramUnit}

theorem stays_checkDefaultAccess (kept : copy.programUnit module = module)
    (member : finding ∈ Rule.checkDefaultAccess module) : copy.Stays finding := by
  have place_kept : copy.token ((module.access.map (·.2)).getD module.token) =
      (module.access.map (·.2)).getD module.token := by
    have access_kept : module.access.map copy.located = module.access :=
      congrArg ProgramUnit.access kept
    cases access_eq : module.access with
    | none => exact congrArg ProgramUnit.token kept
    | some access =>
      rw [access_eq, Option.map_some, Option.some.injEq] at access_kept
      exact congrArg Prod.snd access_kept
  simp only [Rule.checkDefaultAccess] at member
  split at member
  · split at member
    · contradiction
    · rw [List.mem_singleton.mp member]
      exact stays_at place_kept _
  · split at member
    · rw [List.mem_singleton.mp member]
      exact stays_at place_kept _
    · contradiction

theorem stays_checkListedNames (kept : copy.programUnit module = module)
    (member : finding ∈ Rule.checkListedNames module) : copy.Stays finding := by
  have names_kept : module.publicNames.map copy.located = module.publicNames :=
    congrArg ProgramUnit.publicNames kept
  unfold Rule.checkListedNames at member
  split at member
  · contradiction
  · obtain ⟨⟨name, token⟩, listed, rfl⟩ := List.mem_map.mp member
    exact stays_at (congrArg Prod.snd (kept_of_mem names_kept (List.mem_filter.mp listed).1)) _

theorem stays_checkSetupModule (kept : copy.programUnit module = module)
    (member : finding ∈ Rule.checkSetupModule options module) : copy.Stays finding := by
  simp only [Rule.checkSetupModule, List.mem_append, List.mem_map] at member
  rcases member with ⟨name, -, rfl⟩ | ⟨name, -, rfl⟩
  · have symbol_kept := copy.symbolToken_programUnit module name
    rw [kept] at symbol_kept
    exact stays_at symbol_kept.symm _
  · exact stays_at (congrArg ProgramUnit.token kept) _

end ProgramUnits

/-! ## Rules on the outline -/

variable (kept : copy.outline source.outline = source.outline)
include kept

theorem units_kept : source.outline.units.map copy.programUnit = source.outline.units :=
  congrArg Outline.units kept

theorem modules_kept : source.outline.modules.map copy.programUnit = source.outline.modules := by
  rw [← modules_outline, kept]

theorem specifications_kept : source.outline.specifications.map
    (Prod.map copy.specification (Option.map copy.procedure)) = source.outline.specifications := by
  rw [← specifications_outline, kept]

theorem declarations_kept : source.outline.declarations.map
    (Prod.map copy.declaration (Option.map copy.procedure)) = source.outline.declarations := by
  rw [← declarations_outline, kept]

theorem stays_checkImplicitNone (member : finding ∈ Rule.checkImplicitNone source) :
    copy.Stays finding := by
  obtain ⟨unit, listed, rfl⟩ := List.mem_map.mp member
  have unit_kept := kept_of_mem (units_kept kept) (List.mem_filter.mp listed).1
  exact stays_at (congrArg ProgramUnit.token unit_kept) _

/-- A file that holds more than one unit is told so at the second; one that holds
none is told so at its very start. -/
theorem stays_checkOneUnit (member : finding ∈ Rule.checkOneUnit source) :
    copy.Stays finding ∨ (finding.line, finding.column) = (1, 1) := by
  have headings_kept : source.outline.topLevel.map copy.heading = source.outline.topLevel :=
    congrArg Outline.topLevel kept
  unfold Rule.checkOneUnit at member
  cases top_eq : source.outline.topLevel with
  | nil =>
    rw [top_eq, List.mem_singleton] at member
    exact .inr (member ▸ rfl)
  | cons first others =>
    cases others with
    | nil =>
      rw [top_eq] at member
      contradiction
    | cons second rest =>
      have listed : second ∈ source.outline.topLevel := by simp [top_eq]
      rw [top_eq, List.mem_singleton] at member
      rw [member]
      exact .inl (stays_at (congrArg Heading.token (kept_of_mem headings_kept listed)) _)

theorem stays_checkVisibility (member : finding ∈ Rule.checkVisibility source) :
    copy.Stays finding := by
  obtain ⟨module, listed, found⟩ := List.mem_flatMap.mp member
  have module_kept := kept_of_mem (modules_kept kept) listed
  rcases List.mem_append.mp found with found | found
  · exact stays_checkDefaultAccess module_kept found
  · exact stays_checkListedNames module_kept found

theorem stays_checkNamePrefix (member : finding ∈ Rule.checkNamePrefix source) :
    copy.Stays finding := by
  obtain ⟨module, listed, found⟩ := List.mem_flatMap.mp member
  obtain ⟨procedure, held, found⟩ := List.mem_filterMap.mp found
  have module_kept := kept_of_mem (modules_kept kept) listed
  have procedure_kept := kept_of_mem (congrArg ProgramUnit.procedures module_kept) held
  have token_kept : copy.token procedure.token = procedure.token := by
    rw [← token_procedure, procedure_kept]
  split at found
  · split at found
    · rw [← Option.some.inj found]
      exact stays_at token_kept _
    · contradiction
  · contradiction

theorem stays_checkSetup (member : finding ∈ Rule.checkSetup source options) :
    copy.Stays finding := by
  obtain ⟨module, listed, found⟩ := List.mem_flatMap.mp member
  exact stays_checkSetupModule
    (kept_of_mem (modules_kept kept) (List.mem_filter.mp listed).1) found

theorem stays_checkOnly (member : finding ∈ Rule.checkOnly source options) :
    copy.Stays finding := by
  obtain ⟨item, listed, rfl⟩ := List.mem_map.mp member
  obtain ⟨⟨specification, holder⟩, held, used⟩ :=
    List.mem_flatMap.mp (List.mem_filter.mp listed).1
  have specification_kept := congrArg Prod.fst (kept_of_mem (specifications_kept kept) held)
  have item_kept := kept_of_mem (congrArg Specification.uses specification_kept) used
  exact stays_at (congrArg Use.token item_kept) _

theorem stays_checkUsePlacement (member : finding ∈ Rule.checkUsePlacement source) :
    copy.Stays finding := by
  obtain ⟨item, listed, rfl⟩ := List.mem_map.mp member
  have item_kept := kept_of_mem (congrArg Outline.misplacedUses kept) listed
  exact stays_at (congrArg Use.token item_kept) _

theorem stays_checkIntent (member : finding ∈ Rule.checkIntent source) : copy.Stays finding := by
  obtain ⟨⟨procedure, holder⟩, held, found⟩ := List.mem_flatMap.mp member
  obtain ⟨argument, listed, rfl⟩ := List.mem_map.mp found
  have procedures_kept := copy.procedures_outline source.outline
  rw [kept] at procedures_kept
  have procedure_kept : copy.procedure procedure = procedure :=
    congrArg Prod.fst (kept_of_mem procedures_kept.symm held)
  have arguments_kept := copy.arguments_procedure procedure
  rw [procedure_kept] at arguments_kept
  have argument_kept := kept_of_mem arguments_kept.symm (List.mem_filter.mp listed).1
  exact stays_at (congrArg Argument.token argument_kept) _

theorem stays_checkSideEffects (member : finding ∈ Rule.checkSideEffects source) :
    copy.Stays finding := by
  obtain ⟨⟨procedure, host⟩, held, found⟩ := List.mem_flatMap.mp member
  have hosted_kept := copy.hosted_outline source.outline
  rw [kept] at hosted_kept
  have procedure_kept : copy.procedure procedure = procedure :=
    congrArg Prod.fst (kept_of_mem hosted_kept.symm held)
  have effects_kept := copy.sideEffects_procedure procedure host
  rw [procedure_kept] at effects_kept
  dsimp only at found
  split at found
  · obtain ⟨⟨token, effect⟩, done, rfl⟩ := List.mem_map.mp found
    exact stays_at (congrArg Prod.fst (kept_of_mem effects_kept.symm done)) _
  · contradiction

theorem declaration_kept {declaration : Declaration} {holder : Option Procedure}
    (held : (declaration, holder) ∈ source.outline.declarations) :
    copy.declaration declaration = declaration :=
  congrArg Prod.fst (kept_of_mem (declarations_kept kept) held)

theorem stays_checkDeclarationKind (member : finding ∈ Rule.checkDeclarationKind source) :
    copy.Stays finding := by
  obtain ⟨⟨declaration, holder⟩, held, found⟩ := List.mem_flatMap.mp member
  have declaration_kept := declaration_kept kept held
  dsimp only at found
  split at found
  · split at found
    · rw [List.mem_singleton.mp found]
      exact stays_at (congrArg Declaration.token declaration_kept) _
    · obtain ⟨⟨suffix, token⟩, listed, rfl⟩ := List.mem_map.mp found
      obtain ⟨token', read, suffixed⟩ := List.mem_filterMap.mp (List.mem_filter.mp listed).1
      obtain ⟨suffix', -, pair_eq⟩ := Option.map_eq_some_iff.mp suffixed
      rw [Prod.mk.injEq] at pair_eq
      obtain ⟨rfl, rfl⟩ := pair_eq
      exact stays_at (kept_of_mem (congrArg Declaration.initializer declaration_kept) read) _
  · contradiction

theorem stays_checkSaved (member : finding ∈ Rule.checkSaved source) : copy.Stays finding := by
  rcases List.mem_append.mp member with found | found
  · obtain ⟨⟨specification, holder⟩, held, found⟩ := List.mem_flatMap.mp found
    obtain ⟨token, saved, rfl⟩ := List.mem_map.mp found
    have specification_kept := congrArg Prod.fst (kept_of_mem (specifications_kept kept) held)
    exact stays_at (kept_of_mem (congrArg Specification.saves specification_kept) saved) _
  · obtain ⟨⟨declaration, holder⟩, held, found⟩ := List.mem_filterMap.mp found
    have token_kept := congrArg Declaration.token (declaration_kept kept held)
    dsimp only at found
    split at found
    · rw [← Option.some.inj found]
      exact stays_at token_kept _
    · split at found
      · rw [← Option.some.inj found]
        exact stays_at token_kept _
      · contradiction

theorem stays_checkAutomatic (member : finding ∈ Rule.checkAutomatic source) :
    copy.Stays finding := by
  obtain ⟨⟨declaration, holder⟩, listed, rfl⟩ := List.mem_map.mp member
  have declaration_kept := declaration_kept kept (List.mem_filter.mp listed).1
  exact stays_at (congrArg Declaration.token declaration_kept) _

theorem stays_structuralError (member : finding ∈ Rule.structuralError.findings source options) :
    copy.Stays finding := by
  obtain ⟨error, raised, rfl⟩ := List.mem_map.mp member
  have errors_kept : source.outline.errors.map copy.structuralError = source.outline.errors :=
    congrArg Outline.errors kept
  exact congrArg StructuralError.column (kept_of_mem errors_kept raised)

end Transcription

end FortranStyle
