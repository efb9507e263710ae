import FortranStyle.Proofs.Transcription.Statement

/-!
# Copies of program units

What is recorded of a copied source is the copy of what is recorded of the
source.  Names in small letters are the same in both; names as they are written,
and places, are copied.
-/

namespace FortranStyle.Transcription

variable (copy : Transcription)

/-! ## Specifications -/

/-- Copy a USE statement. -/
def use (item : Use) : Use :=
  { item with token := copy.token item.token, name := copy.token item.name }

/-- Copy a dummy argument. -/
def argument (argument : Argument) : Argument :=
  { argument with token := copy.token argument.token }

/-- Copy what the specification statements say. -/
def specification (specification : Specification) : Specification where
  uses := specification.uses.map copy.use
  declarations := specification.declarations.map copy.declaration
  saves := specification.saves.map copy.token
  implicitNone := specification.implicitNone

@[simp]
theorem name_argument (argument : Argument) : (copy.argument argument).name = argument.name :=
  copy.lower_token argument.token

@[simp]
theorem name_declaration (declaration : Declaration) :
    (copy.declaration declaration).name = declaration.name :=
  copy.lower_token declaration.token

@[simp]
theorem isParameter_declaration (declaration : Declaration) :
    (copy.declaration declaration).isParameter = declaration.isParameter :=
  rfl

@[simp]
theorem has_declaration (declaration : Declaration) (word : String) :
    (copy.declaration declaration).has word = declaration.has word :=
  rfl

@[simp]
theorem token_declaration (declaration : Declaration) :
    (copy.declaration declaration).token = copy.token declaration.token :=
  rfl

@[simp]
theorem typeName_declaration (declaration : Declaration) :
    (copy.declaration declaration).typeName = declaration.typeName :=
  rfl

@[simp]
theorem intent_declaration (declaration : Declaration) :
    (copy.declaration declaration).intent = declaration.intent :=
  rfl

@[simp]
theorem dimension_declaration (declaration : Declaration) :
    (copy.declaration declaration).dimension = declaration.dimension.map copy.token :=
  rfl

@[simp]
theorem names_specification (specification : Specification) :
    (copy.specification specification).names = specification.names := by
  simp [Specification.names, Transcription.specification, Function.comp_def]

@[simp]
theorem parameters_specification (specification : Specification) :
    (copy.specification specification).parameters = specification.parameters := by
  simp [Specification.parameters, Transcription.specification, List.filter_map, Function.comp_def]

/-! ## Procedures -/

mutual

/-- Copy a procedure. -/
def procedure : Procedure → Procedure
  | ⟨kind, token, startLine, endLine, marks, arguments, result, visibility, module,
      isInterfaceBody, specification, actions, children, interfaces⟩ =>
    ⟨kind, copy.token token, copy.line startLine, copy.line endLine, marks,
      arguments.map copy.argument, result, visibility, module.map copy.text, isInterfaceBody,
      copy.specification specification, actions.map copy.action, procedures children,
      interfaceList interfaces⟩

/-- Copy successive procedures. -/
def procedures : List Procedure → List Procedure
  | [] => []
  | first :: rest => procedure first :: procedures rest

/-- Copy successive interface blocks. -/
def interfaceList : List (InterfaceBlock Procedure) → List (InterfaceBlock Procedure)
  | [] => []
  | ⟨name, token, isAbstract, bodies, moduleProcedures⟩ :: rest =>
    ⟨name, copy.token token, isAbstract, procedures bodies, moduleProcedures⟩ ::
      interfaceList rest

end

/-- Copy an interface block. -/
def interface (block : Interface) : Interface :=
  { block with
    token := copy.token block.token
    bodies := block.bodies.map copy.procedure }

theorem procedures_eq_map (list : List Procedure) :
    copy.procedures list = list.map copy.procedure := by
  induction list with
  | nil => rw [procedures, List.map_nil]
  | cons first rest ih => rw [procedures, ih, List.map_cons]

theorem interfaceList_eq_map (list : List Interface) :
    copy.interfaceList list = list.map copy.interface := by
  induction list with
  | nil => rw [interfaceList, List.map_nil]
  | cons first rest ih => rw [interfaceList, ih, procedures_eq_map, List.map_cons, interface]

theorem procedure_eq (node : Procedure) :
    copy.procedure node =
      { node with
        token := copy.token node.token
        startLine := copy.line node.startLine
        endLine := copy.line node.endLine
        arguments := node.arguments.map copy.argument
        module := node.module.map copy.text
        specification := copy.specification node.specification
        actions := node.actions.map copy.action
        children := node.children.map copy.procedure
        interfaces := node.interfaces.map copy.interface } := by
  cases node
  rw [procedure, procedures_eq_map, interfaceList_eq_map]

@[simp]
theorem kind_procedure (node : Procedure) : (copy.procedure node).kind = node.kind := by
  rw [procedure_eq]

@[simp]
theorem token_procedure (node : Procedure) :
    (copy.procedure node).token = copy.token node.token := by
  rw [procedure_eq]

@[simp]
theorem name_procedure (node : Procedure) :
    (copy.procedure node).name = copy.text node.name := by
  rw [Procedure.name, token_procedure, text_token, Procedure.name]

@[simp]
theorem lowerName_procedure (node : Procedure) :
    (copy.procedure node).lowerName = node.lowerName := by
  rw [Procedure.lowerName, token_procedure, lower_token, Procedure.lowerName]

@[simp]
theorem visibility_procedure (node : Procedure) :
    (copy.procedure node).visibility = node.visibility := by
  rw [procedure_eq]

@[simp]
theorem arguments_procedure (node : Procedure) :
    (copy.procedure node).arguments = node.arguments.map copy.argument := by
  rw [procedure_eq]

@[simp]
theorem specification_procedure (node : Procedure) :
    (copy.procedure node).specification = copy.specification node.specification := by
  rw [procedure_eq]

@[simp]
theorem interfaces_procedure (node : Procedure) :
    (copy.procedure node).interfaces = node.interfaces.map copy.interface := by
  rw [procedure_eq]

@[simp]
theorem argument?_procedure (node : Procedure) (name : String) :
    (copy.procedure node).argument? name = (node.argument? name).map copy.argument := by
  have same : (fun argument : Argument => argument.name == name) ∘ copy.argument =
      fun argument => argument.name == name := by
    funext argument
    rw [Function.comp_apply, name_argument]
  rw [Procedure.argument?, Procedure.argument?, arguments_procedure, List.find?_map, same]

/-! ## Arguments -/

@[simp]
theorem markProcedure_arguments (name : String) (arguments : List Argument) :
    Argument.markProcedure name (arguments.map copy.argument) =
      (Argument.markProcedure name arguments).map copy.argument := by
  induction arguments with
  | nil => rfl
  | cons first rest ih =>
    rw [List.map_cons, Argument.markProcedure, Argument.markProcedure, name_argument, ih]
    split <;> rfl

@[simp]
theorem setIntent_arguments (intent name : String) (arguments : List Argument) :
    Argument.setIntent intent name (arguments.map copy.argument) =
      (Argument.setIntent intent name arguments).map copy.argument := by
  induction arguments with
  | nil => rfl
  | cons first rest ih =>
    rw [List.map_cons, Argument.setIntent, Argument.setIntent, name_argument, ih]
    split <;> rfl

/-- Changes of arguments that commute with copying commute with it when they are
made one after the other. -/
theorem foldl_arguments {α β : Type} (items : List α) (map : α → β)
    (change : List Argument → β → List Argument) (original : List Argument → α → List Argument)
    (commutes : ∀ arguments item,
      change (arguments.map copy.argument) (map item) =
        (original arguments item).map copy.argument)
    (arguments : List Argument) :
    (items.map map).foldl change (arguments.map copy.argument) =
      (items.foldl original arguments).map copy.argument := by
  induction items generalizing arguments with
  | nil => rfl
  | cons item rest ih => rw [List.map_cons, List.foldl_cons, commutes, ih, List.foldl_cons]

/-! ## Program units -/

/-- Copy a derived type. -/
def derivedType (derivedType : DerivedType) : DerivedType :=
  { derivedType with token := copy.token derivedType.token }

/-- Copy something with the token that says so. -/
def located {α : Type} : α × Token → α × Token :=
  Prod.map id copy.token

/-- Copy a program unit. -/
def programUnit (node : ProgramUnit) : ProgramUnit where
  kind := node.kind
  token := copy.token node.token
  startLine := copy.line node.startLine
  endLine := copy.line node.endLine
  specification := copy.specification node.specification
  access := node.access.map copy.located
  publicNames := node.publicNames.map copy.located
  privateNames := node.privateNames.map copy.located
  procedures := node.procedures.map copy.procedure
  derivedTypes := node.derivedTypes.map copy.derivedType
  interfaces := node.interfaces.map copy.interface
  enumerators := node.enumerators
  containsLine := node.containsLine.map copy.line

@[simp]
theorem fst_located {α : Type} (pair : α × Token) : (copy.located pair).1 = pair.1 :=
  rfl

@[simp]
theorem snd_located {α : Type} (pair : α × Token) : (copy.located pair).2 = copy.token pair.2 :=
  rfl

@[simp]
theorem lookup_located (names : List (String × Token)) (name : String) :
    (names.map copy.located).lookup name = (names.lookup name).map copy.token := by
  induction names with
  | nil => rfl
  | cons first rest ih =>
    obtain ⟨listed, token⟩ := first
    rw [List.map_cons, List.lookup_cons, List.lookup_cons, ih]
    simp only [fst_located, snd_located]
    split <;> rfl

@[simp]
theorem kind_programUnit (node : ProgramUnit) : (copy.programUnit node).kind = node.kind :=
  rfl

@[simp]
theorem name_programUnit (node : ProgramUnit) :
    (copy.programUnit node).name = copy.text node.name :=
  rfl

@[simp]
theorem isModule_programUnit (node : ProgramUnit) :
    (copy.programUnit node).isModule = node.isModule :=
  rfl

@[simp]
theorem isListedPublic_programUnit (node : ProgramUnit) (name : String) :
    (copy.programUnit node).isListedPublic name = node.isListedPublic name := by
  simp [ProgramUnit.isListedPublic, programUnit]

@[simp]
theorem isListedPrivate_programUnit (node : ProgramUnit) (name : String) :
    (copy.programUnit node).isListedPrivate name = node.isListedPrivate name := by
  simp [ProgramUnit.isListedPrivate, programUnit]

/-- A name and its copy are equally visible. -/
theorem visibilityOf_programUnit (node : ProgramUnit) {name written : String}
    (same : Text.lower written = Text.lower name) :
    (copy.programUnit node).visibilityOf written = node.visibilityOf name := by
  have access_eq : (copy.programUnit node).access.map (·.1) = node.access.map (·.1) := by
    simp [programUnit, Function.comp_def]
  simp only [ProgramUnit.visibilityOf, same, isListedPublic_programUnit,
    isListedPrivate_programUnit, access_eq]

theorem grant_programUnit (node : ProgramUnit) (visibility : Option Visibility)
    {name written : String} (same : Text.lower written = Text.lower name) (token : Token) :
    (copy.programUnit node).grant visibility written (copy.token token) =
      copy.programUnit (node.grant visibility name token) := by
  rcases visibility with _ | _ | _
  · rfl
  · simp only [ProgramUnit.grant, isListedPublic_programUnit, same]
    split <;> simp [programUnit, located]
  · simp only [ProgramUnit.grant, isListedPrivate_programUnit, same]
    split <;> simp [programUnit, located]

@[simp]
theorem finish_procedure (node : Procedure) (endLine : Nat) :
    (copy.procedure node).finish (copy.line endLine) = copy.procedure (node.finish endLine) := by
  have described : ((copy.procedure node).interfaces.flatMap fun block =>
        block.bodies.map (·.lowerName)) =
      node.interfaces.flatMap fun block => block.bodies.map (·.lowerName) := by
    simp [List.flatMap_map, interface, Function.comp_def]
  have marked := copy.foldl_arguments
    (node.interfaces.flatMap fun block => block.bodies.map (·.lowerName)) id
    (fun found name => Argument.markProcedure name found) _
    (fun arguments name => copy.markProcedure_arguments name arguments) node.arguments
  rw [List.map_id] at marked
  simp only [Procedure.finish, described, arguments_procedure, marked]
  simp [procedure_eq]

@[simp]
theorem finish_programUnit (node : ProgramUnit) (endLine : Nat) :
    (copy.programUnit node).finish (copy.line endLine) =
      copy.programUnit (node.finish endLine) := by
  have held_eq : (node.procedures.map copy.procedure).map (fun held =>
        { held with visibility := (copy.programUnit node).visibilityOf held.name }) =
      (node.procedures.map fun held =>
        { held with visibility := node.visibilityOf held.name }).map copy.procedure := by
    simp only [List.map_map, Function.comp_def, name_procedure]
    congr 1
    funext held
    rw [copy.visibilityOf_programUnit node (copy.lower_text held.name), procedure_eq, procedure_eq]
  exact congrArg (fun procedures =>
      ({ copy.programUnit node with endLine := copy.line endLine, procedures } : ProgramUnit))
    held_eq

/-! ## Recording declarations -/

@[simp]
theorem hasRunTimeBounds_declaration (declaration : Declaration) (constants : List String) :
    (copy.declaration declaration).hasRunTimeBounds constants =
      declaration.hasRunTimeBounds constants := by
  simp [Declaration.hasRunTimeBounds, List.any_map, Function.comp_def]

@[simp]
theorem declare_procedure (node : Procedure) (constants : List String)
    (declaration : Declaration) :
    (copy.procedure node).declare constants (copy.declaration declaration) =
      copy.procedure (node.declare constants declaration) := by
  simp only [Procedure.declare, name_declaration, specification_procedure,
    parameters_specification, argument?_procedure, hasRunTimeBounds_declaration,
    intent_declaration, arguments_procedure, typeName_declaration, Option.isSome_map]
  rw [procedure_eq, procedure_eq]
  by_cases isProcedure : declaration.typeName = "procedure" ∨ "external" ∈ declaration.attributes
  all_goals
    cases declaration.intent <;>
      simp [Transcription.specification, Transcription.declaration, Declaration.has, isProcedure]

@[simp]
theorem declare_programUnit (node : ProgramUnit) (declaration : Declaration) :
    (copy.programUnit node).declare (copy.declaration declaration) =
      copy.programUnit (node.declare declaration) := by
  have granted : (if node.isModule then
        (copy.programUnit node).grant declaration.visibility declaration.name
          (copy.token declaration.token)
        else copy.programUnit node) =
      copy.programUnit (if node.isModule then
        node.grant declaration.visibility declaration.name declaration.token else node) := by
    rw [copy.grant_programUnit node declaration.visibility rfl]
    split <;> rfl
  let declare (unit : ProgramUnit) (declaration : Declaration) : ProgramUnit :=
    { unit with
      specification :=
        { unit.specification with
          declarations := unit.specification.declarations ++ [declaration] } }
  have declared (unit : ProgramUnit) :
      declare (copy.programUnit unit) (copy.declaration declaration) =
        copy.programUnit (declare unit declaration) := by
    simp [declare, programUnit, Transcription.specification]
  rw [ProgramUnit.declare, isModule_programUnit, name_declaration]
  exact (congrArg (declare · (copy.declaration declaration)) granted).trans (declared _)

end FortranStyle.Transcription
