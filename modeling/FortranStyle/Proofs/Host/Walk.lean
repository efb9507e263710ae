import FortranStyle.Proofs.Ledger.History
import FortranStyle.Rule.Check

/-!
# Procedures and their hosts

The walk that judges side effects comes to the procedures of a source that are no bodies of
interface blocks, each once, with the variables of the program unit around and the local
names of the procedures around.
-/

namespace FortranStyle

namespace Procedure

/-- A procedure among others, or inside one of them: those around it stand in a chain,
outermost first. -/
inductive Nested : List Procedure → List Procedure → Procedure → Prop
  | root {roots : List Procedure} {procedure : Procedure} (member : procedure ∈ roots) :
      Nested roots [] procedure
  | inside {roots chain : List Procedure} {outer procedure : Procedure} (member : outer ∈ roots)
      (nested : Nested outer.children chain procedure) : Nested roots (outer :: chain) procedure

theorem hosted_eq (procedure : Procedure) (host : List String) :
    procedure.hosted host =
      (procedure, host) :: hostedList (host ++ procedure.localNames) procedure.children := by
  cases procedure
  rfl

theorem hostedList_eq_flatMap (host : List String) (procedures : List Procedure) :
    hostedList host procedures = procedures.flatMap (hosted host) := by
  induction procedures with
  | nil => rfl
  | cons first rest ih => rw [hostedList, List.flatMap_cons, ih]

/-- The walk comes to a procedure with the local names of those around it. -/
theorem Nested.mem_hostedList {roots chain : List Procedure} {procedure : Procedure}
    (nested : Nested roots chain procedure) (host : List String) :
    (procedure, host ++ chain.flatMap localNames) ∈ hostedList host roots := by
  rw [hostedList_eq_flatMap]
  induction nested generalizing host with
  | @root roots procedure member =>
    refine List.mem_flatMap.mpr ⟨procedure, member, ?_⟩
    rw [hosted_eq, List.flatMap_nil, List.append_nil]
    exact List.mem_cons_self
  | @inside roots chain outer procedure member _ ih =>
    refine List.mem_flatMap.mpr ⟨outer, member, ?_⟩
    rw [hosted_eq, List.flatMap_cons, ← List.append_assoc, hostedList_eq_flatMap]
    exact List.mem_cons_of_mem _ (ih (host ++ outer.localNames))

mutual

/-- The walk keeps to the procedures inside a procedure. -/
theorem map_hosted_sublist (host : List String) : ∀ procedure : Procedure,
    ((procedure.hosted host).map Prod.fst).Sublist procedure.subtree
  | ⟨kind, token, startLine, endLine, marks, arguments, result, visibility, module,
      isInterfaceBody, specification, actions, children, interfaces⟩ => by
    rw [hosted, subtree, List.map_cons]
    exact ((map_hostedList_sublist _ children).trans (List.sublist_append_left _ _)).cons_cons _

theorem map_hostedList_sublist (host : List String) : ∀ procedures : List Procedure,
    ((hostedList host procedures).map Prod.fst).Sublist (forest procedures)
  | [] => .slnil
  | first :: rest => by
    rw [hostedList, forest, List.map_append]
    exact (map_hosted_sublist host first).append (map_hostedList_sublist host rest)

end

end Procedure

namespace Outline

/-- The variables of a program unit, if there is one. -/
def unitVariables (programUnit? : Option ProgramUnit) : List String :=
  ((unitDeclarations programUnit?).filter (!·.isParameter)).map (·.name)

/-- A procedure stands in a program unit, or outside any, inside the procedures of a
chain. -/
inductive Places (outline : Outline) : Option ProgramUnit → List Procedure → Procedure → Prop
  | unit {programUnit : ProgramUnit} {chain : List Procedure} {procedure : Procedure}
      (listed : programUnit ∈ outline.units)
      (nested : Procedure.Nested programUnit.procedures chain procedure) :
      Places outline (some programUnit) chain procedure
  | external {chain : List Procedure} {procedure : Procedure}
      (nested : Procedure.Nested outline.external chain procedure) :
      Places outline none chain procedure

/-- The walk comes to a procedure with the variables of the program unit around and the
local names of the procedures around. -/
theorem Places.mem_hosted {outline : Outline} {programUnit? : Option ProgramUnit}
    {chain : List Procedure} {procedure : Procedure}
    (placed : outline.Places programUnit? chain procedure) :
    (procedure, unitVariables programUnit? ++ chain.flatMap Procedure.localNames) ∈
      outline.hosted := by
  cases placed with
  | unit listed nested =>
    exact List.mem_append_left _ (List.mem_flatMap.mpr ⟨_, listed, nested.mem_hostedList _⟩)
  | external nested => exact List.mem_append_right _ (nested.mem_hostedList [])

/-- The walk comes to no procedure that is not one of the source. -/
theorem map_hosted_sublist (outline : Outline) :
    (outline.hosted.map Prod.fst).Sublist (outline.procedures.map Prod.fst) := by
  have units (programUnits : List ProgramUnit) :
      ((programUnits.flatMap fun node =>
        Procedure.hostedList node.variables node.procedures).map Prod.fst).Sublist
        ((programUnits.flatMap fun node =>
          node.allProcedures.map (·, some node)).map Prod.fst) := by
    induction programUnits with
    | nil => exact .slnil
    | cons node rest ih =>
      rw [List.flatMap_cons, List.flatMap_cons, List.map_append, List.map_append]
      refine List.Sublist.append ?_ ih
      have own : (node.allProcedures.map (·, some node)).map Prod.fst = node.allProcedures := by
        rw [List.map_map]
        exact List.map_id _
      rw [own]
      exact (Procedure.map_hostedList_sublist _ _).trans (List.sublist_append_left _ _)
  have outside : ((Procedure.forest outline.external).map
      (·, (none : Option ProgramUnit))).map Prod.fst = Procedure.forest outline.external := by
    rw [List.map_map]
    exact List.map_id _
  rw [hosted, procedures, List.map_append, List.map_append, outside]
  exact (units outline.units).append (Procedure.map_hostedList_sublist _ _)

end Outline

end FortranStyle
