import Mathlib.Data.List.Forall2
import FortranStyle.Proofs.Locality.Held

/-!
# What program units gain

A statement adds to what program units hold only where it stands: in the program
unit that is its innermost scope.  There is one exception: the names of an
ENUMERATOR statement go to the innermost program unit, even from inside a
procedure.
-/

namespace FortranStyle

/-! ## Names -/

/-- A list of names with nothing in it but old names and names of a kind. -/
def Adds (P : String → Prop) (before after : List String) : Prop :=
  ∀ name ∈ after, name ∈ before ∨ P name

namespace Adds

variable {P : String → Prop} {first second third : List String}

theorem refl (names : List String) : Adds P names names :=
  fun _ => .inl

theorem trans (early : Adds P first second) (late : Adds P second third) : Adds P first third := by
  intro name member
  rcases late name member with member | added
  · exact early name member
  · exact .inr added

theorem append {first' second' : List String} (left : Adds P first second)
    (right : Adds P first' second') : Adds P (first ++ first') (second ++ second') := by
  intro name member
  rw [List.mem_append] at member ⊢
  rcases member with member | member
  · exact (left name member).imp_left .inl
  · exact (right name member).imp_left .inr

theorem of_append {added : List String} (new : ∀ name ∈ added, P name) (names : List String) :
    Adds P names (names ++ added) := by
  intro name member
  exact (List.mem_append.mp member).imp_right (new name)

end Adds

/-- The names that a program unit defines or makes public, those of its procedures
left out. -/
def ProgramUnit.ownNames (programUnit : ProgramUnit) : List String :=
  programUnit.specification.names ++ programUnit.derivedTypes.map (Text.lower ·.name) ++
    programUnit.interfaces.filterMap (·.name) ++ programUnit.enumerators ++
    programUnit.publicNames.map (·.1)

namespace Statement

/-- Whether a statement is an ENUMERATOR statement with a name, given in small
letters. -/
def Enumerates (tokens : List Token) (name : String) : Prop :=
  tokens.head?.any (·.isWord "enumerator") = true ∧ name ∈ (listedNames tokens).map (·.lower)

/-- A statement that defines a name in the program unit it stands in or makes it
public, the name given in small letters. -/
inductive Introduces (tokens : List Token) (name : String) : Prop
  | declaration {declaration : Declaration} (isDeclaration : isDeclaration tokens = true)
      (listed : declaration ∈ (typeDeclaration tokens).declarations)
      (named : name = declaration.name ∨ name = Text.lower declaration.name)
  | derivedType {derivedType : DerivedType} (heading : typeHeading? tokens = some derivedType)
      (named : name = Text.lower derivedType.name)
  | interface {block : Interface} (heading : interfaceHeading? tokens = some block)
      (named : block.name = some name)
  | access {word : Token} {rest item : List Token} (tokens_eq : tokens = word :: rest)
      (isPublic : word.isWord "public" = true)
      (listed : item ∈ Bracket.items (if rest.head?.any (·.isOp "::") then rest.drop 1 else rest))
      (named : name = Text.lower (localName item))
  | enumerator (enumerates : Enumerates tokens name)

end Statement

namespace ProgramUnit

variable {P : String → Prop}

/-- A program unit that has gained nothing but names of a kind. -/
def Gains (P : String → Prop) (before after : ProgramUnit) : Prop :=
  after.token = before.token ∧ Adds P before.ownNames after.ownNames

theorem Gains.refl (programUnit : ProgramUnit) : Gains P programUnit programUnit :=
  ⟨rfl, .refl _⟩

theorem Gains.trans {first second third : ProgramUnit} (early : Gains P first second)
    (late : Gains P second third) : Gains P first third :=
  ⟨late.1.trans early.1, early.2.trans late.2⟩

/-- A program unit that is the same as before, or has a name of its own and has
gained names of a kind. -/
def Gained (own : Token → Prop) (P : String → Prop) (before after : ProgramUnit) : Prop :=
  after = before ∨ own before.token ∧ before.Gains P after

theorem gained_same {own : Token → Prop} (programUnits : List ProgramUnit) :
    List.Forall₂ (Gained own P) programUnits programUnits :=
  List.forall₂_same.mpr fun _ _ => .inl rfl

theorem mem_ownNames_face {programUnit : ProgramUnit} {blocks : List Interface} {name : String} :
    name ∈ (programUnit.face blocks).ownNames ↔
      name ∈ programUnit.ownNames ∨ name ∈ blocks.filterMap (·.name) := by
  have names_eq : (programUnit.interfaces.map (·.face [])).filterMap (·.name) =
      programUnit.interfaces.filterMap (·.name) := by
    rw [List.filterMap_map]
    rfl
  simp only [ownNames, ProgramUnit.face, List.mem_append, List.filterMap_append, names_eq]
  tauto

/-- Gains show from outside. -/
theorem Gains.face {before after : ProgramUnit} (gains : Gains P before after)
    {blocks blocks' : List Interface}
    (named : Adds P (blocks.filterMap (·.name)) (blocks'.filterMap (·.name))) :
    Gains P (before.face blocks) (after.face blocks') := by
  refine ⟨gains.1, fun name member => ?_⟩
  rw [mem_ownNames_face] at member ⊢
  rcases member with member | member
  · exact (gains.2 name member).imp_left .inl
  · exact (named name member).imp_left .inr

end ProgramUnit

/-! ## The innermost scope and the innermost program unit -/

namespace Frames

/-- The innermost scope is the program unit with a name. -/
def InUnit (frames : List Frame) (token : Token) : Prop :=
  ∃ scope ∈ scope? frames, ∃ node, scope.node = .programUnit node ∧ node.token = token

/-- The innermost program unit, perhaps around procedures, is the one with a
name. -/
def UnderUnit (frames : List Frame) (token : Token) : Prop :=
  ∃ node ∈ programUnit? frames, node.token = token

end Frames

namespace ScopeNode

/-- A program unit that has gained names of a kind, or a procedure that looks the
same. -/
inductive Gains (P : String → Prop) : ScopeNode → ScopeNode → Prop
  | programUnit {node node' : ProgramUnit} (gains : node.Gains P node') :
      Gains P (.programUnit node) (.programUnit node')
  | procedure {node node' : Procedure} (same : node'.husk = node.husk) :
      Gains P (.procedure node) (.procedure node')

variable {P : String → Prop}

theorem Gains.refl (node : ScopeNode) : Gains P node node := by
  cases node with
  | programUnit node => exact .programUnit (.refl node)
  | procedure node => exact .procedure rfl

theorem Gains.trans {first second third : ScopeNode} (early : Gains P first second)
    (late : Gains P second third) : Gains P first third := by
  cases early with
  | programUnit early =>
    cases late with
    | programUnit late => exact .programUnit (early.trans late)
  | procedure early =>
    cases late with
    | procedure late => exact .procedure (late.trans early)

/-- A specification part that declares nothing new. -/
theorem gains_mapSpecification {f : Specification → Specification}
    (same : ∀ specification, (f specification).names = specification.names) (node : ScopeNode) :
    Gains P node (node.mapSpecification f) := by
  cases node with
  | programUnit node =>
    refine .programUnit ⟨rfl, ?_⟩
    rw [ProgramUnit.ownNames, ProgramUnit.ownNames, same]
    exact .refl _
  | procedure node => exact .procedure rfl

theorem gains_mapUnit {f : ProgramUnit → ProgramUnit}
    (gains : ∀ node, ProgramUnit.Gains P node (f node))
    (node : ScopeNode) : Gains P node (node.mapUnit f) := by
  cases node with
  | programUnit node => exact .programUnit (gains node)
  | procedure node => exact .procedure rfl

end ScopeNode

namespace Frames

open ProgramUnit (Gained gained_same)

variable {P : String → Prop} (frames : List Frame)

/-- What is recorded in the innermost scope is gained by that scope. -/
theorem gained_mapScope {f : Scope → Scope}
    (gains : ∀ scope, scope.node.Gains P (f scope).node ∧ (f scope).nested = scope.nested)
    (bodies : List Procedure) (blocks : List Interface) :
    List.Forall₂ (Gained (InUnit frames) P) (held frames bodies blocks)
      (held (mapScope f frames) bodies blocks) := by
  induction frames generalizing bodies blocks with
  | nil => exact .nil
  | cons frame rest ih =>
    cases frame with
    | scope scope =>
      obtain ⟨nodeGains, nested_eq⟩ := gains scope
      obtain ⟨opener, node, inSpecification, nested⟩ := scope
      rw [mapScope]
      generalize f ⟨opener, node, inSpecification, nested⟩ = changed at nodeGains nested_eq
      obtain ⟨opener', node', inSpecification', nested'⟩ := changed
      dsimp only at nodeGains nested_eq
      subst nested_eq
      cases nodeGains with
      | programUnit unitGains =>
        refine List.rel_append (gained_same _) (.cons (.inr ⟨?_, ?_⟩) (gained_same _))
        · exact ⟨_, rfl, _, rfl, rfl⟩
        · exact unitGains.face (.refl _)
      | procedure husk_eq =>
        rw [held, held, husk_eq]
        exact gained_same _
    | interface _ _ => exact ih _ _
    | derivedType _ _ => exact ih _ _
    | construct _ _ => exact ih _ _

theorem gained_mapNode {f : ScopeNode → ScopeNode}
    (gains : ∀ node, ScopeNode.Gains P node (f node))
    (bodies : List Procedure) (blocks : List Interface) :
    List.Forall₂ (Gained (InUnit frames) P) (held frames bodies blocks)
      (held (mapNode f frames) bodies blocks) := by
  apply gained_mapScope
  exact fun scope => ⟨gains scope.node, rfl⟩

/-- What is open above some frames is gained by their innermost scope. -/
theorem gained_open (bodies bodies' : List Procedure) {blocks blocks' : List Interface}
    (named : Adds P (blocks.filterMap (·.name)) (blocks'.filterMap (·.name))) :
    List.Forall₂ (Gained (InUnit frames) P) (held frames bodies blocks)
      (held frames bodies' blocks') := by
  induction frames generalizing bodies bodies' blocks blocks' with
  | nil => exact .nil
  | cons frame rest ih =>
    cases frame with
    | scope scope =>
      obtain ⟨opener, node, inSpecification, nested⟩ := scope
      cases node with
      | programUnit node =>
        refine List.rel_append (gained_same _) (.cons (.inr ⟨?_, ?_⟩) (gained_same _))
        · exact ⟨_, rfl, _, rfl, rfl⟩
        · exact (ProgramUnit.Gains.refl node).face named
      | procedure node => exact gained_same _
    | interface _ block =>
      apply ih
      rw [List.filterMap_append, List.filterMap_append]
      exact named.append (.refl _)
    | derivedType _ _ => exact ih _ _ named
    | construct _ _ => exact ih _ _ named

/-- What is recorded in the innermost program unit is gained by that unit. -/
theorem gained_mapProgramUnit {f : ProgramUnit → ProgramUnit}
    (gains : ∀ node, ProgramUnit.Gains P node (f node)) (bodies : List Procedure)
    (blocks : List Interface) :
    List.Forall₂ (Gained (UnderUnit frames) P) (held frames bodies blocks)
      (held (mapProgramUnit f frames) bodies blocks) := by
  induction frames generalizing bodies blocks with
  | nil => exact .nil
  | cons frame rest ih =>
    cases frame with
    | scope scope =>
      obtain ⟨opener, node, inSpecification, nested⟩ := scope
      cases node with
      | programUnit node =>
        refine List.rel_append (gained_same _) (.cons (.inr ⟨?_, ?_⟩) (gained_same _))
        · exact ⟨node, rfl, rfl⟩
        · exact (gains node).face (.refl _)
      | procedure node => exact List.rel_append (ih _ _) (gained_same _)
    | interface _ _ => exact ih _ _
    | derivedType _ _ => exact ih _ _
    | construct _ _ => exact ih _ _

end Frames

end FortranStyle
