import FortranStyle.Program.Scan
import Mathlib.Order.Nat

/-!
# Lines of procedures

Procedures that stand next to each other in an outline take up successive ranges
of lines, and what a program unit or procedure holds lies in its own range.  The
ranges of two neighbours may share a line, since a statement may end where the
next one starts.
-/

namespace FortranStyle

/-- Procedures between two lines, each ending where the next one starts or
above. -/
structure Successive (low high : Nat) (procedures : List Procedure) : Prop where
  within : ∀ procedure ∈ procedures, low ≤ procedure.startLine ∧ procedure.endLine ≤ high
  ordered : procedures.Pairwise fun first second => first.endLine ≤ second.startLine

/-- The procedures and the interface bodies of a holder lie between two lines. -/
structure Encloses (low high : Nat) (procedures : List Procedure) (interfaces : List Interface) :
    Prop where
  procedures : Successive low high procedures
  bodies : ∀ block ∈ interfaces, Successive low high block.bodies

/-- A range of a source of so many lines, with a holder's procedures and interface
bodies in it. -/
structure Ranged (last startLine endLine : Nat) (procedures : List Procedure)
    (interfaces : List Interface) : Prop where
  start_pos : 1 ≤ startLine
  start_le : startLine ≤ endLine
  end_le : endLine ≤ last
  encloses : Encloses startLine endLine procedures interfaces

/-- A procedure has a range, and what it holds lies in it. -/
def Procedure.Ranged (last : Nat) (procedure : Procedure) : Prop :=
  FortranStyle.Ranged last procedure.startLine procedure.endLine procedure.children
    procedure.interfaces

/-- A program unit has a range, and what it holds lies in it. -/
def ProgramUnit.Ranged (last : Nat) (programUnit : ProgramUnit) : Prop :=
  FortranStyle.Ranged last programUnit.startLine programUnit.endLine programUnit.procedures
    programUnit.interfaces

/-! ## Between lines -/

namespace Successive

variable {low low' middle high high' : Nat} {procedures : List Procedure}

theorem nil (low high : Nat) : Successive low high [] :=
  ⟨List.forall_mem_nil _, .nil⟩

theorem mono (successive : Successive low high procedures) (low_le : low' ≤ low)
    (le_high : high ≤ high') : Successive low' high' procedures where
  within procedure member :=
    ⟨low_le.trans (successive.within procedure member).1,
      (successive.within procedure member).2.trans le_high⟩
  ordered := successive.ordered

/-- One more procedure below the others. -/
theorem concat (successive : Successive low middle procedures) {procedure : Procedure}
    (low_le : low ≤ procedure.startLine) (behind : middle ≤ procedure.startLine)
    (upright : procedure.startLine ≤ procedure.endLine) (le_high : procedure.endLine ≤ high) :
    Successive low high (procedures ++ [procedure]) where
  within := by
    rw [List.forall_mem_append, List.forall_mem_singleton]
    refine ⟨fun other member => ?_, low_le, le_high⟩
    obtain ⟨low_le_other, le_middle⟩ := successive.within other member
    exact ⟨low_le_other, le_middle.trans (behind.trans (upright.trans le_high))⟩
  ordered := by
    rw [List.pairwise_append]
    refine ⟨successive.ordered, List.pairwise_singleton _ _, fun other member => ?_⟩
    rw [List.forall_mem_singleton]
    exact (successive.within other member).2.trans behind

/-- Changes that leave the lines alone. -/
theorem map {f : Procedure → Procedure} (successive : Successive low high procedures)
    (same : ∀ procedure, (f procedure).startLine = procedure.startLine ∧
      (f procedure).endLine = procedure.endLine) :
    Successive low high (procedures.map f) where
  within := by
    rw [List.forall_mem_map]
    intro procedure member
    rw [(same procedure).1, (same procedure).2]
    exact successive.within procedure member
  ordered := by
    rw [List.pairwise_map]
    refine successive.ordered.imp fun {first second} ordered => ?_
    rwa [(same first).2, (same second).1]

end Successive

theorem Ranged.mono {last last' startLine endLine : Nat} {procedures : List Procedure}
    {interfaces : List Interface} (ranged : Ranged last startLine endLine procedures interfaces)
    (le : last ≤ last') : Ranged last' startLine endLine procedures interfaces :=
  { ranged with end_le := ranged.end_le.trans le }

/-! ## All that a holder holds -/

namespace Procedure

theorem mem_forest {procedures : List Procedure} {inner : Procedure} :
    inner ∈ forest procedures ↔ ∃ procedure ∈ procedures, inner ∈ procedure.subtree := by
  induction procedures with
  | nil => simp [forest]
  | cons first rest ih => simp [forest, ih]

theorem mem_interfaceForest {interfaces : List Interface} {inner : Procedure} :
    inner ∈ interfaceForest interfaces ↔
      ∃ block ∈ interfaces, inner ∈ forest block.bodies := by
  induction interfaces with
  | nil => simp [interfaceForest]
  | cons first rest ih => simp [interfaceForest, ih]

end Procedure

/-- The procedures and interface bodies of a holder, and all that they hold, have
ranges. -/
def AllRanged (last : Nat) (procedures : List Procedure) (interfaces : List Interface) : Prop :=
  ∀ inner ∈ Procedure.forest procedures ++ Procedure.interfaceForest interfaces,
    inner.Ranged last

theorem Procedure.subtree_ranged {last : Nat} {procedure : Procedure}
    (ranged : procedure.Ranged last)
    (inside : AllRanged last procedure.children procedure.interfaces) :
    ∀ inner ∈ procedure.subtree, inner.Ranged last := by
  cases procedure
  rw [subtree, List.forall_mem_cons]
  exact ⟨ranged, inside⟩

namespace AllRanged

variable {last last' : Nat} {procedures : List Procedure} {interfaces : List Interface}

theorem nil (last : Nat) : AllRanged last [] [] := by
  simp [AllRanged, Procedure.forest, Procedure.interfaceForest]

theorem mono (all : AllRanged last procedures interfaces) (le : last ≤ last') :
    AllRanged last' procedures interfaces :=
  fun inner member => (all inner member).mono le

theorem addProcedure (all : AllRanged last procedures interfaces) {procedure : Procedure}
    (ranged : procedure.Ranged last)
    (inside : AllRanged last procedure.children procedure.interfaces) :
    AllRanged last (procedures ++ [procedure]) interfaces := by
  intro inner member
  rw [List.mem_append, Procedure.mem_forest] at member
  rcases member with ⟨holder, listed, inHolder⟩ | inBody
  · rcases List.mem_append.mp listed with listed | added
    · exact all inner
        (List.mem_append_left _ (Procedure.mem_forest.mpr ⟨holder, listed, inHolder⟩))
    · rw [List.mem_singleton.mp added] at inHolder
      exact procedure.subtree_ranged ranged inside inner inHolder
  · exact all inner (List.mem_append_right _ inBody)

theorem addInterface (all : AllRanged last procedures interfaces) {block : Interface}
    (inside : AllRanged last block.bodies []) :
    AllRanged last procedures (interfaces ++ [block]) := by
  intro inner member
  rw [List.mem_append, Procedure.mem_interfaceForest] at member
  rcases member with held | ⟨other, listed, inBody⟩
  · exact all inner (List.mem_append_left _ held)
  · rcases List.mem_append.mp listed with listed | added
    · exact all inner (List.mem_append_right _
        (Procedure.mem_interfaceForest.mpr ⟨other, listed, inBody⟩))
    · rw [List.mem_singleton.mp added] at inBody
      exact inside inner (List.mem_append_left _ inBody)

/-- Visibility is known only when a program unit ends; it changes no range. -/
theorem mapVisibility (all : AllRanged last procedures interfaces)
    (visibility : Procedure → Visibility) :
    AllRanged last
      (procedures.map fun procedure => { procedure with visibility := visibility procedure })
      interfaces := by
  intro inner member
  rw [List.mem_append, Procedure.mem_forest] at member
  rcases member with ⟨_, listed, inHolder⟩ | inBody
  · obtain ⟨holder, held, rfl⟩ := List.mem_map.mp listed
    have inside : ∀ inner ∈ holder.subtree, inner.Ranged last := fun inner member =>
      all inner (List.mem_append_left _ (Procedure.mem_forest.mpr ⟨holder, held, member⟩))
    cases holder
    rw [Procedure.subtree, List.forall_mem_cons] at inside
    rcases List.mem_cons.mp inHolder with rfl | deeper
    · exact inside.1
    · exact inside.2 inner deeper
  · exact all inner (List.mem_append_right _ inBody)

end AllRanged

/-- A program unit that has a range, and all procedures of it have. -/
structure ProgramUnit.Complete (last : Nat) (programUnit : ProgramUnit) : Prop where
  ranged : programUnit.Ranged last
  all : AllRanged last programUnit.procedures programUnit.interfaces

theorem ProgramUnit.Complete.mono {last last' : Nat} {programUnit : ProgramUnit}
    (complete : programUnit.Complete last) (le : last ≤ last') : programUnit.Complete last' :=
  ⟨complete.ranged.mono le, complete.all.mono le⟩

/-! ## The end of a holder -/

section Finish

variable {last : Nat}

/-- A procedure that ends behind all that it holds has a range. -/
theorem Procedure.ranged_finish {node : Procedure}
    (encloses : Encloses node.startLine last node.children node.interfaces)
    (start_pos : 1 ≤ node.startLine) (start_le : node.startLine ≤ last) :
    (node.finish last).Ranged last :=
  ⟨start_pos, start_le, Nat.le_refl last, encloses⟩

/-- A program unit that ends behind all that it holds has a range. -/
theorem ProgramUnit.complete_finish {node : ProgramUnit}
    (encloses : Encloses node.startLine last node.procedures node.interfaces)
    (all : AllRanged last node.procedures node.interfaces)
    (start_pos : 1 ≤ node.startLine) (start_le : node.startLine ≤ last) :
    (node.finish last).Complete last where
  ranged :=
    ⟨start_pos, start_le, Nat.le_refl last, encloses.procedures.map fun _ => ⟨rfl, rfl⟩,
      encloses.bodies⟩
  all := all.mapVisibility _

end Finish

end FortranStyle
