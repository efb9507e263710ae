import FortranStyle.Proofs.Nesting.History
import Mathlib.Data.List.Forall2

/-!
# Programs that differ in one procedure

Two programs are alike when one holds a procedure where the other holds another
one, and they are the same otherwise.  When both procedures have one name, no
search among open blocks and nothing that is recorded tells two such programs
apart.
-/

namespace FortranStyle

/-! ## Procedures and program units -/

/-- The procedure with the given procedures and interface blocks inside. -/
def Procedure.holding (node : Procedure) (children : List Procedure)
    (interfaces : List Interface) : Procedure :=
  { node with children, interfaces }

/-- The program unit with the given procedures and interface blocks inside. -/
def ProgramUnit.holding (node : ProgramUnit) (procedures : List Procedure)
    (interfaces : List Interface) : ProgramUnit :=
  { node with procedures, interfaces }

/-- Interface blocks that are the same up to related bodies. -/
inductive InterfaceBlock.Alike {Body : Type} (R : Body → Body → Prop) :
    InterfaceBlock Body → InterfaceBlock Body → Prop
  | intro (name : Option String) (token : Token) (isAbstract : Bool)
      (moduleProcedures : List String) {bodies bodies' : List Body}
      (bodies_alike : List.Forall₂ R bodies bodies') :
      Alike R ⟨name, token, isAbstract, bodies, moduleProcedures⟩
        ⟨name, token, isAbstract, bodies', moduleProcedures⟩

/-- Procedures that are the same up to related procedures inside. -/
inductive Procedure.Holds (R : Procedure → Procedure → Prop) : Procedure → Procedure → Prop
  | intro (node : Procedure) {children children' : List Procedure}
      {interfaces interfaces' : List Interface}
      (children_alike : List.Forall₂ R children children')
      (interfaces_alike : List.Forall₂ (InterfaceBlock.Alike R) interfaces interfaces') :
      Holds R (node.holding children interfaces) (node.holding children' interfaces')

/-- Program units that are the same up to related procedures inside. -/
inductive ProgramUnit.Holds (R : Procedure → Procedure → Prop) : ProgramUnit → ProgramUnit → Prop
  | intro (node : ProgramUnit) {procedures procedures' : List Procedure}
      {interfaces interfaces' : List Interface}
      (procedures_alike : List.Forall₂ R procedures procedures')
      (interfaces_alike : List.Forall₂ (InterfaceBlock.Alike R) interfaces interfaces') :
      Holds R (node.holding procedures interfaces) (node.holding procedures' interfaces')

/-- Procedures that are the same except that one is, or holds, `first` where the
other is, or holds, `second`.  The visibility of these is up to their unit. -/
inductive Procedure.Alike (first second : Procedure) : Procedure → Procedure → Prop
  | same (node : Procedure) : Alike first second node node
  | swapped (visibility : Visibility) :
      Alike first second { first with visibility } { second with visibility }
  | holding {node node' : Procedure} (holds : Procedure.Holds (Alike first second) node node') :
      Alike first second node node'

/-! ## Changes that do not look inside -/

namespace Procedure

variable {R : Procedure → Procedure → Prop}

/-- A change that neither reads nor writes the procedures inside. -/
def Blind (f : Procedure → Procedure) : Prop :=
  ∀ node children interfaces, f (node.holding children interfaces) =
    (f node).holding children interfaces

theorem Holds.map {f : Procedure → Procedure} (blind : Blind f) {node node' : Procedure}
    (holds : node.Holds R node') : (f node).Holds R (f node') := by
  obtain ⟨node, children_alike, interfaces_alike⟩ := holds
  rw [blind, blind]
  exact .intro (f node) children_alike interfaces_alike

theorem blind_declare (constants : List String) (declaration : Declaration) :
    Blind (·.declare constants declaration) :=
  fun _ _ _ => rfl

end Procedure

namespace ProgramUnit

variable {R : Procedure → Procedure → Prop}

/-- A change that neither reads nor writes the procedures inside. -/
def Blind (f : ProgramUnit → ProgramUnit) : Prop :=
  ∀ node procedures interfaces, f (node.holding procedures interfaces) =
    (f node).holding procedures interfaces

theorem Holds.map {f : ProgramUnit → ProgramUnit} (blind : Blind f) {node node' : ProgramUnit}
    (holds : node.Holds R node') : (f node).Holds R (f node') := by
  obtain ⟨node, procedures_alike, interfaces_alike⟩ := holds
  rw [blind, blind]
  exact .intro (f node) procedures_alike interfaces_alike

theorem grant_holding (node : ProgramUnit) (procedures : List Procedure)
    (interfaces : List Interface) (visibility : Option Visibility) (name : String)
    (token : Token) :
    (node.holding procedures interfaces).grant visibility name token =
      (node.grant visibility name token).holding procedures interfaces := by
  rcases visibility with _ | _ | _
  · rfl
  all_goals
    simp only [grant, apply_ite (holding · procedures interfaces)]
    rfl

theorem blind_declare (declaration : Declaration) : Blind (·.declare declaration) := by
  intro node procedures interfaces
  have kind_eq : (node.holding procedures interfaces).isModule = node.isModule := rfl
  simp only [declare, grant_holding, kind_eq]
  cases node.isModule <;> rfl

theorem blind_recordAccess (visibility : Visibility) (word : Token) (rest : List Token) :
    Blind (·.recordAccess visibility word rest) := by
  intro node procedures interfaces
  simp only [recordAccess]
  split
  · rfl
  · induction Bracket.items rest generalizing node with
    | nil => rfl
    | cons item items ih =>
      cases item with
      | nil => exact ih node
      | cons token more =>
        simp only [List.foldl_cons, grant_holding]
        exact ih _

end ProgramUnit

/-! ## Open blocks -/

/-- Open program units or procedures that are the same up to related procedures
inside. -/
inductive ScopeNode.Alike (R : Procedure → Procedure → Prop) : ScopeNode → ScopeNode → Prop
  | programUnit {node node' : ProgramUnit} (holds : node.Holds R node') :
      Alike R (.programUnit node) (.programUnit node')
  | procedure {node node' : Procedure} (holds : node.Holds R node') :
      Alike R (.procedure node) (.procedure node')

/-- Scopes that are the same up to related procedures inside. -/
inductive Scope.Alike (R : Procedure → Procedure → Prop) : Scope → Scope → Prop
  | intro (opener : Token) (inSpecification : Bool) {node node' : ScopeNode}
      {nested nested' : List ProgramUnit} (node_alike : node.Alike R node')
      (nested_alike : List.Forall₂ (ProgramUnit.Holds R) nested nested') :
      Alike R ⟨opener, node, inSpecification, nested⟩ ⟨opener, node', inSpecification, nested'⟩

/-- Open blocks that are the same up to related procedures inside. -/
inductive Frame.Alike (R : Procedure → Procedure → Prop) : Frame → Frame → Prop
  | scope {scope scope' : Scope} (alike : scope.Alike R scope') :
      Alike R (.scope scope) (.scope scope')
  | interface (opener : Token) {block block' : Interface} (alike : block.Alike R block') :
      Alike R (.interface opener block) (.interface opener block')
  | derivedType (opener : Token) (name : String) :
      Alike R (.derivedType opener name) (.derivedType opener name)
  | construct (opener : Token) (kind : ConstructKind) :
      Alike R (.construct opener kind) (.construct opener kind)

theorem Frame.Alike.block_eq {R : Procedure → Procedure → Prop} {frame frame' : Frame}
    (alike : frame.Alike R frame') : frame'.block = frame.block := by
  cases alike with
  | scope alike =>
    obtain ⟨opener, inSpecification, node_alike, -⟩ := alike
    cases node_alike with
    | programUnit holds =>
      cases holds
      rfl
    | procedure holds =>
      cases holds
      rfl
  | interface opener alike =>
    cases alike
    rfl
  | derivedType _ _ => rfl
  | construct _ _ => rfl

namespace ScopeNode

variable {R : Procedure → Procedure → Prop}

/-- A change that keeps nodes alike. -/
def Respects (R : Procedure → Procedure → Prop) (f : ScopeNode → ScopeNode) : Prop :=
  ∀ ⦃node node'⦄, node.Alike R node' → (f node).Alike R (f node')

theorem respects_mapUnit {f : ProgramUnit → ProgramUnit} (blind : ProgramUnit.Blind f) :
    Respects R (mapUnit f) := by
  intro node node' alike
  cases alike with
  | programUnit holds => exact .programUnit (holds.map blind)
  | procedure holds => exact .procedure holds

theorem respects_mapProcedure {f : Procedure → Procedure} (blind : Procedure.Blind f) :
    Respects R (mapProcedure f) := by
  intro node node' alike
  cases alike with
  | programUnit holds => exact .programUnit holds
  | procedure holds => exact .procedure (holds.map blind)

theorem respects_mapSpecification (f : Specification → Specification) :
    Respects R (mapSpecification f) := by
  intro node node' alike
  cases alike with
  | @programUnit node node' holds =>
    have blind : ProgramUnit.Blind fun node =>
        { node with specification := f node.specification } := fun _ _ _ => rfl
    exact .programUnit (holds.map blind)
  | procedure holds =>
    have blind : Procedure.Blind fun node =>
        { node with specification := f node.specification } := fun _ _ _ => rfl
    exact .procedure (holds.map blind)

theorem respects_declare (constants : List String) (declarations : List Declaration) :
    Respects R fun node => declarations.foldl (ScopeNode.declare constants) node := by
  induction declarations with
  | nil => exact fun _ _ alike => alike
  | cons declaration rest ih =>
    intro node node' alike
    apply ih
    cases alike with
    | programUnit holds => exact .programUnit (holds.map (ProgramUnit.blind_declare declaration))
    | procedure holds =>
      exact .procedure (holds.map (Procedure.blind_declare constants declaration))

theorem Alike.addInterface {node node' : ScopeNode} (alike : node.Alike R node')
    {block block' : Interface} (blocks : block.Alike R block') :
    (node.addInterface block).Alike R (node'.addInterface block') := by
  cases alike with
  | programUnit holds =>
    obtain ⟨node, procedures_alike, interfaces_alike⟩ := holds
    exact .programUnit (.intro node procedures_alike
      (List.rel_append interfaces_alike (.cons blocks .nil)))
  | procedure holds =>
    obtain ⟨node, children_alike, interfaces_alike⟩ := holds
    exact .procedure (.intro node children_alike
      (List.rel_append interfaces_alike (.cons blocks .nil)))

theorem Alike.addProcedure {node node' : ScopeNode} (alike : node.Alike R node')
    {child child' : Procedure} (related : R child child') :
    (node.addProcedure child).Alike R (node'.addProcedure child') := by
  cases alike with
  | programUnit holds =>
    obtain ⟨node, procedures_alike, interfaces_alike⟩ := holds
    exact .programUnit (.intro node (List.rel_append procedures_alike (.cons related .nil))
      interfaces_alike)
  | procedure holds =>
    obtain ⟨node, children_alike, interfaces_alike⟩ := holds
    exact .procedure (.intro node (List.rel_append children_alike (.cons related .nil))
      interfaces_alike)

end ScopeNode

/-! ## Searches and changes among open blocks -/

namespace Frames

variable {R : Procedure → Procedure → Prop} {frames frames' : List Frame}

theorem map_block_eq (alike : List.Forall₂ (Frame.Alike R) frames frames') :
    frames'.map Frame.block = frames.map Frame.block := by
  induction alike with
  | nil => rfl
  | cons frame _ ih => rw [List.map_cons, List.map_cons, frame.block_eq, ih]

theorem rel_scope? (alike : List.Forall₂ (Frame.Alike R) frames frames') :
    Option.Rel (Scope.Alike R) (scope? frames) (scope? frames') := by
  induction alike with
  | nil => exact .none
  | cons frame _ ih =>
    cases frame with
    | scope scope => exact .some scope
    | interface _ _ => exact ih
    | derivedType _ _ => exact ih
    | construct _ _ => exact ih

theorem rel_programUnit? (alike : List.Forall₂ (Frame.Alike R) frames frames') :
    Option.Rel (ProgramUnit.Holds R) (programUnit? frames) (programUnit? frames') := by
  induction alike with
  | nil => exact .none
  | cons frame _ ih =>
    cases frame with
    | scope scope =>
      obtain ⟨opener, inSpecification, node_alike, -⟩ := scope
      cases node_alike with
      | programUnit holds => exact .some holds
      | procedure _ => exact ih
    | interface _ _ => exact ih
    | derivedType _ _ => exact ih
    | construct _ _ => exact ih

theorem rel_holder? (alike : List.Forall₂ (Frame.Alike R) frames frames') :
    Option.Rel (Frame.Alike R) (holder? frames) (holder? frames') := by
  induction alike with
  | nil => exact .none
  | cons frame _ ih =>
    cases frame with
    | scope scope => exact .some (.scope scope)
    | interface opener block => exact .some (.interface opener block)
    | derivedType _ _ => exact ih
    | construct _ _ => exact ih

theorem mapScope_alike {f f' : Scope → Scope}
    (respects : ∀ ⦃scope scope'⦄, scope.Alike R scope' → (f scope).Alike R (f' scope'))
    (alike : List.Forall₂ (Frame.Alike R) frames frames') :
    List.Forall₂ (Frame.Alike R) (mapScope f frames) (mapScope f' frames') := by
  induction alike with
  | nil => exact .nil
  | cons frame rest ih =>
    cases frame with
    | scope scope => exact .cons (.scope (respects scope)) rest
    | interface opener block => exact .cons (.interface opener block) ih
    | derivedType opener name => exact .cons (.derivedType opener name) ih
    | construct opener kind => exact .cons (.construct opener kind) ih

theorem mapNode_alike {f f' : ScopeNode → ScopeNode}
    (respects : ∀ ⦃node node'⦄, node.Alike R node' → (f node).Alike R (f' node'))
    (alike : List.Forall₂ (Frame.Alike R) frames frames') :
    List.Forall₂ (Frame.Alike R) (mapNode f frames) (mapNode f' frames') := by
  apply mapScope_alike _ alike
  intro scope scope' scopes
  obtain ⟨opener, inSpecification, node_alike, nested_alike⟩ := scopes
  exact .intro opener inSpecification (respects node_alike) nested_alike

theorem mapProgramUnit_alike {f : ProgramUnit → ProgramUnit} (blind : ProgramUnit.Blind f)
    (alike : List.Forall₂ (Frame.Alike R) frames frames') :
    List.Forall₂ (Frame.Alike R) (mapProgramUnit f frames) (mapProgramUnit f frames') := by
  induction alike with
  | nil => exact .nil
  | cons frame rest ih =>
    cases frame with
    | scope scope =>
      obtain ⟨opener, inSpecification, node_alike, nested_alike⟩ := scope
      cases node_alike with
      | programUnit holds =>
        exact .cons (.scope (.intro opener inSpecification (.programUnit (holds.map blind))
          nested_alike)) rest
      | procedure holds =>
        exact .cons (.scope (.intro opener inSpecification (.procedure holds) nested_alike)) ih
    | interface opener block => exact .cons (.interface opener block) ih
    | derivedType opener name => exact .cons (.derivedType opener name) ih
    | construct opener kind => exact .cons (.construct opener kind) ih

theorem rel_attach? {child child' : Procedure} (related : R child child')
    (alike : List.Forall₂ (Frame.Alike R) frames frames') :
    Option.Rel (List.Forall₂ (Frame.Alike R)) (attach? child frames) (attach? child' frames') := by
  have further {frame frame' : Frame} (top : frame.Alike R frame')
    {found? found?' : Option (List Frame)}
      (found : Option.Rel (List.Forall₂ (Frame.Alike R)) found? found?') :
      Option.Rel (List.Forall₂ (Frame.Alike R)) (found?.map (frame :: ·))
        (found?'.map (frame' :: ·)) := by
    cases found with
    | none => exact .none
    | some found => exact .some (.cons top found)
  induction alike with
  | nil => exact .none
  | cons frame rest ih =>
    cases frame with
    | scope scope =>
      obtain ⟨opener, inSpecification, node_alike, nested_alike⟩ := scope
      exact .some (.cons (.scope (.intro opener inSpecification (node_alike.addProcedure related)
        nested_alike)) rest)
    | interface opener block =>
      obtain ⟨name, token, isAbstract, moduleProcedures, bodies_alike⟩ := block
      exact .some (.cons (.interface opener (.intro name token isAbstract moduleProcedures
        (List.rel_append bodies_alike (.cons related .nil)))) rest)
    | derivedType opener name => exact further (.derivedType opener name) ih
    | construct opener kind => exact further (.construct opener kind) ih

end Frames

end FortranStyle
