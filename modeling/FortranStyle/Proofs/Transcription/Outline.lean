import FortranStyle.Proofs.Transcription.Scan
import FortranStyle.Rule.Structure

/-!
# What is read off a copied outline

The rules walk an outline by kinds, by names in small letters and by lists of
attributes.  So a walk through a copied outline visits the copies of what a walk
through the outline visits, and every question about names has the same answer.
-/

namespace FortranStyle.Transcription

variable (copy : Transcription)

/-! ## Procedures -/

mutual

theorem subtree_procedure : ∀ node : Procedure,
    (copy.procedure node).subtree = node.subtree.map copy.procedure
  | ⟨kind, token, startLine, endLine, marks, arguments, result, visibility, module,
      isInterfaceBody, specification, actions, children, interfaces⟩ => by
    rw [procedure, Procedure.subtree, Procedure.subtree, forest_procedures, interfaceForest_list,
      List.map_cons, List.map_append, procedure]

theorem forest_procedures : ∀ list : List Procedure,
    Procedure.forest (copy.procedures list) = (Procedure.forest list).map copy.procedure
  | [] => by rw [procedures, Procedure.forest, List.map_nil]
  | first :: rest => by
    rw [procedures, Procedure.forest, Procedure.forest, subtree_procedure first,
      forest_procedures rest, List.map_append]

theorem interfaceForest_list : ∀ list : List (InterfaceBlock Procedure),
    Procedure.interfaceForest (copy.interfaceList list) =
      (Procedure.interfaceForest list).map copy.procedure
  | [] => by rw [interfaceList, Procedure.interfaceForest, List.map_nil]
  | ⟨name, token, isAbstract, bodies, moduleProcedures⟩ :: rest => by
    rw [interfaceList, Procedure.interfaceForest, Procedure.interfaceForest,
      forest_procedures bodies, interfaceForest_list rest, List.map_append]

end

@[simp]
theorem allProcedures_programUnit (node : ProgramUnit) :
    (copy.programUnit node).allProcedures = node.allProcedures.map copy.procedure := by
  rw [ProgramUnit.allProcedures, programUnit, ← procedures_eq_map, ← interfaceList_eq_map,
    forest_procedures, interfaceForest_list, ← List.map_append, ProgramUnit.allProcedures]

@[simp]
theorem localNames_procedure (node : Procedure) :
    (copy.procedure node).localNames = node.localNames := by
  simp [Procedure.localNames]

mutual

theorem hosted_procedure (host : List String) : ∀ node : Procedure,
    (copy.procedure node).hosted host = (node.hosted host).map (Prod.map copy.procedure id)
  | ⟨kind, token, startLine, endLine, marks, arguments, result, visibility, module,
      isInterfaceBody, specification, actions, children, interfaces⟩ => by
    have locals := copy.localNames_procedure ⟨kind, token, startLine, endLine, marks, arguments,
      result, visibility, module, isInterfaceBody, specification, actions, children, interfaces⟩
    rw [procedure] at locals ⊢
    rw [Procedure.hosted, Procedure.hosted, locals, hostedList_procedures, List.map_cons,
      Prod.map_apply, procedure]
    rfl

theorem hostedList_procedures (host : List String) : ∀ list : List Procedure,
    Procedure.hostedList host (copy.procedures list) =
      (Procedure.hostedList host list).map (Prod.map copy.procedure id)
  | [] => by rw [procedures, Procedure.hostedList, List.map_nil]
  | first :: rest => by
    rw [procedures, Procedure.hostedList, Procedure.hostedList, hosted_procedure host first,
      hostedList_procedures host rest, List.map_append]

end

/-! ## Walks -/

@[simp]
theorem modules_outline (outline : Outline) :
    (copy.outline outline).modules = outline.modules.map copy.programUnit := by
  simp [Outline.modules, Transcription.outline, List.filter_map, Function.comp_def]

@[simp]
theorem procedures_outline (outline : Outline) :
    (copy.outline outline).procedures =
      outline.procedures.map (Prod.map copy.procedure (Option.map copy.programUnit)) := by
  have forest_eq := copy.forest_procedures outline.external
  rw [procedures_eq_map] at forest_eq
  simp [Outline.procedures, Transcription.outline, List.flatMap_map, List.map_flatMap, forest_eq,
    Function.comp_def]

@[simp]
theorem specifications_outline (outline : Outline) :
    (copy.outline outline).specifications =
      outline.specifications.map (Prod.map copy.specification (Option.map copy.procedure)) := by
  simp only [Outline.specifications, procedures_outline]
  simp [Transcription.outline, programUnit, Function.comp_def]

@[simp]
theorem declarations_outline (outline : Outline) :
    (copy.outline outline).declarations =
      outline.declarations.map (Prod.map copy.declaration (Option.map copy.procedure)) := by
  simp [Outline.declarations, List.flatMap_map, List.map_flatMap, specification,
    Function.comp_def]

@[simp]
theorem hosted_outline (outline : Outline) :
    (copy.outline outline).hosted = outline.hosted.map (Prod.map copy.procedure id) := by
  have variables_eq (node : ProgramUnit) : (copy.programUnit node).variables = node.variables := by
    simp [ProgramUnit.variables, programUnit, specification, List.filter_map, Function.comp_def]
  have held (host : List String) (list : List Procedure) :
      Procedure.hostedList host (list.map copy.procedure) =
        (Procedure.hostedList host list).map (Prod.map copy.procedure id) := by
    rw [← procedures_eq_map, hostedList_procedures]
  simp only [Outline.hosted, Transcription.outline, List.flatMap_map, variables_eq, held,
    List.map_append, List.map_flatMap]
  simp [programUnit, held]

/-! ## Names -/

@[simp]
theorem lower_name_derivedType (derivedType : DerivedType) :
    Text.lower (copy.derivedType derivedType).name = Text.lower derivedType.name :=
  copy.lower_text derivedType.token.text

@[simp]
theorem definedNames_programUnit (node : ProgramUnit) :
    (copy.programUnit node).definedNames = node.definedNames := by
  have interfaces_eq : (node.interfaces.map copy.interface).filterMap (·.name) =
      node.interfaces.filterMap (·.name) := by
    rw [List.filterMap_map]
    rfl
  have names_eq : (copy.specification node.specification).names = node.specification.names :=
    copy.names_specification node.specification
  simp only [ProgramUnit.definedNames, programUnit, interfaces_eq, names_eq]
  simp [Function.comp_def]

@[simp]
theorem symbols_programUnit (node : ProgramUnit) :
    (copy.programUnit node).symbols = node.symbols := by
  rw [ProgramUnit.symbols, definedNames_programUnit, ProgramUnit.symbols]
  simp [programUnit, specification, List.flatMap_map, use]

@[simp]
theorem publicSymbols_programUnit (node : ProgramUnit) :
    (copy.programUnit node).publicSymbols = node.publicSymbols := by
  have visible (name : String) : (copy.programUnit node).visibilityOf name =
      node.visibilityOf name := copy.visibilityOf_programUnit node rfl
  simp only [ProgramUnit.publicSymbols, definedNames_programUnit, visible]
  simp [programUnit, Function.comp_def]

@[simp]
theorem symbolToken_programUnit (node : ProgramUnit) (name : String) :
    (copy.programUnit node).symbolToken name = copy.token (node.symbolToken name) := by
  have first (places : List Token) : (places.map copy.token).headD (copy.token node.token) =
      copy.token (places.headD node.token) := by
    cases places <;> rfl
  have listed : ((node.publicNames.map copy.located).filter (·.1 == name)).map (·.2) =
      ((node.publicNames.filter (·.1 == name)).map (·.2)).map copy.token := by
    simp [List.filter_map, Function.comp_def]
  have held : ((node.procedures.map copy.procedure).filter (·.lowerName == name)).map (·.token) =
      ((node.procedures.filter (·.lowerName == name)).map (·.token)).map copy.token := by
    simp [List.filter_map, Function.comp_def]
  have declared : ((node.specification.declarations.map copy.declaration).filter
        (·.name == name)).map (·.token) =
      ((node.specification.declarations.filter (·.name == name)).map (·.token)).map
        copy.token := by
    simp [List.filter_map, Function.comp_def]
  have types : ((node.derivedTypes.map copy.derivedType).filter
        (Text.lower ·.name == name)).map (·.token) =
      ((node.derivedTypes.filter (Text.lower ·.name == name)).map (·.token)).map copy.token := by
    simp only [List.filter_map, Function.comp_def, lower_name_derivedType, List.map_map]
    rfl
  have interfaces_eq : ((node.interfaces.map copy.interface).filter
        (·.name == some name)).map (·.token) =
      ((node.interfaces.filter (·.name == some name)).map (·.token)).map copy.token := by
    simp [List.filter_map, Function.comp_def, interface]
  simp only [ProgramUnit.symbolToken, programUnit, specification, listed, held, declared, types,
    interfaces_eq, ← List.map_append]
  exact first _

/-! ## Side effects -/

@[simp]
theorem sideEffects_procedure (node : Procedure) (host : List String) :
    (copy.procedure node).sideEffects host =
      (node.sideEffects host).map (Prod.map copy.token id) := by
  have assignments_eq : (copy.procedure node).assignments =
      node.assignments.map copy.token := by
    rw [procedure_eq]
    simp only [Procedure.assignments, List.filterMap_map, List.map_filterMap]
    congr 1
    funext action
    cases action <;> rfl
  have effects_eq : (copy.procedure node).effects =
      node.effects.map (Prod.map id (Prod.map copy.token id)) := by
    rw [procedure_eq]
    simp only [Procedure.effects, List.filterMap_map, List.map_filterMap]
    congr 1
    funext action
    cases action <;> rfl
  have resultName_eq : (copy.procedure node).resultName = node.resultName := by
    have result_eq : (copy.procedure node).result = node.result := by rw [procedure_eq]
    rw [Procedure.resultName, result_eq, name_procedure, Procedure.resultName]
    cases node.result with
    | none => exact copy.lower_text node.name
    | some result => rfl
  have assigned (target : Token) :
      (copy.procedure node).assignmentEffect? host (copy.token target) =
        (node.assignmentEffect? host target).map (Prod.map copy.token id) := by
    simp only [Procedure.assignmentEffect?, lower_token, argument?_procedure, localNames_procedure,
      resultName_eq]
    cases node.argument? target.lower with
    | none =>
      simp only [Option.map_none]
      split <;> rfl
    | some found =>
      simp only [Option.map_some, argument]
      split <;> rfl
  have done (effect : String × Token × Option String) :
      (copy.procedure node).statementEffect? (Prod.map id (Prod.map copy.token id) effect) =
        (node.statementEffect? effect).map (Prod.map copy.token id) := by
    obtain ⟨words, token, unit⟩ := effect
    simp only [Prod.map_apply, id_eq, Procedure.statementEffect?, localNames_procedure]
    split <;> rfl
  simp only [Procedure.sideEffects, assignments_eq, effects_eq, List.filterMap_map,
    List.map_append, List.map_filterMap, Function.comp_def, assigned, done]

end FortranStyle.Transcription
