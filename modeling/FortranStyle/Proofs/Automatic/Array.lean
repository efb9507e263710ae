import FortranStyle.Proofs.Automatic.Scan
import FortranStyle.Proofs.Reading.Order
import FortranStyle.Rule.Check

/-!
# Automatic arrays

A declaration is that of an automatic array exactly when it is that of a local array with a
name in its bounds that no declaration in front makes a named constant: none of the same
procedure and none of the program unit around.  The constants of a procedure around count
for nothing.
-/

namespace FortranStyle

open Ledger (posted written)

/-- The tokens of the statements come in the order of the text. -/
theorem Tokenized.pairwise_before (lines : List String) :
    (ofLines lines).statements.flatten.Pairwise fun first second =>
      Before first.start second.start := by
  obtain ⟨ordered, upright⟩ := pairwise_precedes lines
  rw [statements, flatten_statementsOf]
  refine ordered.imp_of_mem fun {first second} firstMember _ precedes => ?_
  obtain ⟨member, code⟩ := List.mem_filter.mp firstMember
  exact (upright first member code).before precedes

instance (first second : Nat × Nat) : Decidable (Before first second) :=
  inferInstanceAs (Decidable (_ ∨ _))

namespace Declaration

/-- Among other declarations one in front makes a name a named constant. -/
def FixedBy (declaration : Declaration) (name : String) (others : List Declaration) : Prop :=
  ∃ earlier ∈ others, earlier.isParameter = true ∧ earlier.name = name ∧
    Before earlier.token.start declaration.token.start

instance (declaration : Declaration) (name : String) (others : List Declaration) :
    Decidable (declaration.FixedBy name others) :=
  inferInstanceAs (Decidable (∃ earlier ∈ others, _))

theorem fixedBy_append {declaration : Declaration} {name : String}
    {front back : List Declaration} :
    declaration.FixedBy name (front ++ back) ↔
      declaration.FixedBy name front ∨ declaration.FixedBy name back := by
  simp only [FixedBy, List.mem_append, or_and_right, exists_or]

end Declaration

/-- The procedures inside a procedure, bodies of interface blocks among them. -/
def Procedure.inner (procedure : Procedure) : List Procedure :=
  forest procedure.children ++ interfaceForest procedure.interfaces

/-- A procedure stands inside another one. -/
def Procedure.Encloses (outer inside : Procedure) : Prop :=
  inside.token ∈ outer.inner.map (·.token)

instance (outer inside : Procedure) : Decidable (outer.Encloses inside) :=
  inferInstanceAs (Decidable (_ ∈ _))

namespace Outline

section Sources

variable {lines : List String}

/-- All declarations are judged by those in front of them. -/
theorem settled_declarations (lines : List String) :
    Posting.Settled (posted (ofTokenized (.ofLines lines)).ledgers) := by
  rw [ledgers_ofTokenized]
  exact ScanState.settled_run (Tokenized.pairwise_before lines)

variable {found : Procedure × Option ProgramUnit}
  (listed : found ∈ (ofTokenized (.ofLines lines)).procedures)
include listed

/-- What is known to a declaration of a procedure are the constants of the procedure and of
the program unit that it is found in. -/
theorem knows_iff_fixedBy (declaration : Declaration) (name : String) :
    (Posting.mk (homeOf found.2) found.1.token (some (found.1.arguments.map (·.token)))
        declaration).Knows (posted (ofTokenized (.ofLines lines)).ledgers) name ↔
      declaration.FixedBy name
        (found.1.specification.declarations ++ unitDeclarations found.2) := by
  have own := ledger_mem_of_mem_procedures listed
  constructor
  · rintro ⟨earlier, member, isParameter, name_eq, order, visible⟩
    obtain ⟨entry, entered, declared, declared_mem, rfl⟩ := Ledger.mem_posted.mp member
    refine ⟨declared, ?_, isParameter, name_eq, order⟩
    rw [List.mem_append]
    rcases visible with same | ⟨home_eq, isUnit⟩
    · left
      rw [eq_of_mem_ledgers entered own same] at declared_mem
      exact declared_mem
    · right
      have placed : entry.1 = .unit entry.2.token := by
        rw [ledgers_ofTokenized] at entered
        exact ScanState.home_eq_of_mem_ledgers _ entry entered isUnit
      have shown : homeOf found.2 = .unit entry.2.token := home_eq.symm.trans placed
      cases holder : found.2 with
      | none =>
        rw [holder] at shown
        cases shown
      | some programUnit =>
        rw [holder] at shown
        have unit_mem := ledger_mem_of_mem_units (mem_units_of_mem_procedures listed holder)
        rw [eq_of_mem_ledgers entered unit_mem (Home.unit.inj shown).symm] at declared_mem
        exact declared_mem
  · rintro ⟨earlier, member, isParameter, name_eq, order⟩
    rcases List.mem_append.mp member with inside | around
    · exact ⟨_, Ledger.mem_posted.mpr ⟨_, own, earlier, inside, rfl⟩, isParameter, name_eq, order,
        .inl rfl⟩
    · cases holder : found.2 with
      | none =>
        rw [holder] at around
        exact absurd around List.not_mem_nil
      | some programUnit =>
        rw [holder] at around
        have unit_mem := ledger_mem_of_mem_units (mem_units_of_mem_procedures listed holder)
        exact ⟨_, Ledger.mem_posted.mpr ⟨_, unit_mem, earlier, around, rfl⟩, isParameter, name_eq,
          order, .inr ⟨rfl, rfl⟩⟩

/-- When a declaration of a procedure is automatic. -/
theorem isAutomatic_iff {declaration : Declaration}
    (declared : declaration ∈ found.1.specification.declarations) :
    declaration.isAutomatic = true ↔
      found.1.argument? declaration.name = none ∧ declaration.isPlainArray = true ∧
        ∃ token ∈ declaration.dimension, token.kind = .identifier ∧
          ¬declaration.FixedBy token.lower
            (found.1.specification.declarations ++ unitDeclarations found.2) := by
  have judged := settled_declarations lines _ (Ledger.mem_posted.mpr
    ⟨_, ledger_mem_of_mem_procedures listed, declaration, declared, rfl⟩)
  have isLocal : (Posting.mk (homeOf found.2) found.1.token
      (some (found.1.arguments.map (·.token))) declaration).IsLocal ↔
        found.1.argument? declaration.name = none := by
    rw [Posting.IsLocal, Procedure.argument?, List.find?_eq_none]
    simp [Argument.name]
  rw [Posting.Judged] at judged
  simp only [ScopeNode.ledger, knows_iff_fixedBy listed, isLocal] at judged
  exact judged

end Sources

end Outline

/-- No declaration of a program unit is automatic.  A declaration of a procedure is
automatic exactly when it is no dummy argument, has a dimension, is neither allocatable nor
a pointer nor a constant, and a name in its dimension is made a constant by no declaration
in front of it in the procedure or in the program unit around.  The procedures around the
procedure can be taken in addition when what they make constant is one of these already. -/
theorem isAutomatic_of_bounds (lines : List String) :
    let outline := Outline.ofTokenized (.ofLines lines)
    (∀ programUnit ∈ outline.units, ∀ declaration ∈ programUnit.specification.declarations,
      declaration.isAutomatic = false) ∧
    ∀ found ∈ outline.procedures, ∀ declaration ∈ found.1.specification.declarations,
      let known := found.1.specification.declarations ++ Outline.unitDeclarations found.2
      (declaration.isAutomatic = true ↔
        found.1.argument? declaration.name = none ∧ declaration.isPlainArray = true ∧
          ∃ token ∈ declaration.dimension, token.kind = .identifier ∧
            ¬declaration.FixedBy token.lower known) ∧
      ((∀ token ∈ declaration.dimension, token.kind = .identifier →
          ∀ outer ∈ outline.procedures, outer.1.Encloses found.1 →
            declaration.FixedBy token.lower outer.1.specification.declarations →
              declaration.FixedBy token.lower known) →
        (declaration.isAutomatic = true ↔
          found.1.argument? declaration.name = none ∧ declaration.isPlainArray = true ∧
            ∃ token ∈ declaration.dimension, token.kind = .identifier ∧
              ¬declaration.FixedBy token.lower found.1.specification.declarations ∧
              (∀ outer ∈ outline.procedures, outer.1.Encloses found.1 →
                ¬declaration.FixedBy token.lower outer.1.specification.declarations) ∧
              ¬declaration.FixedBy token.lower (Outline.unitDeclarations found.2))) := by
  intro outline
  refine ⟨fun programUnit listed declaration declared => ?_,
    fun found listed declaration declared => ?_⟩
  · have judged := Outline.settled_declarations lines _ (Ledger.mem_posted.mpr
      ⟨_, Outline.ledger_mem_of_mem_units listed, declaration, declared, rfl⟩)
    refine Bool.eq_false_iff.mpr fun automatic => ?_
    obtain ⟨_, isUnit, -⟩ := (judged.mp automatic).1
    contradiction
  · intro known
    have exact_iff := Outline.isAutomatic_iff listed declared
    refine ⟨exact_iff, fun covered => exact_iff.trans ?_⟩
    refine and_congr_right fun _ => and_congr_right fun _ => exists_congr fun token =>
      and_congr_right fun inside => and_congr_right fun isName => ?_
    rw [Declaration.fixedBy_append, not_or]
    constructor
    · rintro ⟨notOwn, notUnit⟩
      refine ⟨notOwn, fun outer outer_mem encloses around => ?_, notUnit⟩
      rcases Declaration.fixedBy_append.mp
        (covered token inside isName outer outer_mem encloses around) with own | unit
      · exact notOwn own
      · exact notUnit unit
    · rintro ⟨notOwn, -, notUnit⟩
      exact ⟨notOwn, notUnit⟩

/-- A constant of the program unit and one of the procedure itself are known to an internal
procedure, also when the procedure around has one of the same name; a variable is not. -/
theorem isAutomatic_of_bounds_internal :
    let lines := ["module m", "integer, parameter :: k = 1", "contains", "subroutine outer(n)",
      "integer :: n", "integer, parameter :: j = 3", "contains", "subroutine s()",
      "integer, parameter :: j = 2", "real :: a(k, j), b(n)", "end subroutine s",
      "end subroutine outer", "end module m"]
    let outline := Outline.ofTokenized (.ofLines lines)
    (outline.procedures.map fun found => found.1.specification.declarations.map (·.name)) =
        [["n", "j"], ["j", "a", "b"]] ∧
      ∀ found ∈ outline.procedures, ∀ declaration ∈ found.1.specification.declarations,
        (declaration.isAutomatic = true ↔ declaration.name = "b") := by
  intro lines outline
  have covered : ∀ found ∈ outline.procedures,
      ∀ declaration ∈ found.1.specification.declarations,
      ∀ token ∈ declaration.dimension, token.kind = .identifier →
        ∀ outer ∈ outline.procedures, outer.1.Encloses found.1 →
          declaration.FixedBy token.lower outer.1.specification.declarations →
            declaration.FixedBy token.lower
              (found.1.specification.declarations ++ Outline.unitDeclarations found.2) := by
    decide +kernel
  refine ⟨by decide +kernel, fun found listed declaration declared => ?_⟩
  obtain ⟨-, automatic_iff⟩ := (isAutomatic_of_bounds lines).2 found listed declaration declared
  rw [automatic_iff (covered found listed declaration declared)]
  revert found declaration
  decide +kernel

/-- The constant of a procedure around is not known: an array that it bounds is called
automatic. -/
theorem isAutomatic_of_bounds_host :
    let lines := ["subroutine outer()", "integer, parameter :: k = 1", "contains",
      "subroutine s()", "real :: work(k)", "end subroutine s", "end subroutine outer"]
    let outline := Outline.ofTokenized (.ofLines lines)
    (∃ found ∈ outline.procedures, ∃ declaration ∈ found.1.specification.declarations,
      declaration.isAutomatic = true ∧
        ∀ token ∈ declaration.dimension, token.kind = .identifier →
          ∃ outer ∈ outline.procedures, outer.1.Encloses found.1 ∧
            declaration.FixedBy token.lower outer.1.specification.declarations) ∧
      Rule.checkAutomatic (.ofLines "a.f90" lines) =
        [⟨5, 9, "Local array 'work' is an automatic array; declare it ALLOCATABLE"⟩] := by
  decide +kernel

end FortranStyle
