import FortranStyle.Proofs.Roster.Gather

/-!
# The members of a source

Every program unit and procedure that starts is a member of its source: what its header
tells and what it uses, and for a procedure the place where it is found in the end.  So
there is a list of members at every time, in no order, and closing a block changes nothing
in it.
-/

namespace FortranStyle

/-- A procedure by itself: what its header tells and what it uses. -/
def Procedure.own (procedure : Procedure) : Procedure :=
  { procedure.husk with
    specification := { Specification.empty with uses := procedure.specification.uses } }

/-- A program unit by itself: how it starts and what it uses. -/
def ProgramUnit.own (programUnit : ProgramUnit) : ProgramUnit :=
  { ProgramUnit.begin programUnit.kind programUnit.token programUnit.startLine with
    specification := { Specification.empty with uses := programUnit.specification.uses } }

/-- A program unit or procedure of a source by itself, a procedure with the program
unit that it is found in. -/
inductive Member
  | programUnit (node : ProgramUnit)
  | procedure (holder : Option Token) (node : Procedure)

/-- Procedures as members with one place. -/
def Home.members : Home → List Procedure → Multiset Member
  | unit token, procedures => procedures.map fun node => Member.procedure (some token) node.own
  | external, procedures => procedures.map fun node => Member.procedure none node.own
  | lost, _ => 0

/-- A program unit or procedure as a member. -/
def Home.member (home : Home) : ScopeNode → Multiset Member
  | .programUnit node => {.programUnit node.own}
  | .procedure node => home.members [node]

/-- A program unit and all its procedures. -/
def ProgramUnit.members (programUnit : ProgramUnit) : Multiset Member :=
  Member.programUnit programUnit.own ::ₘ
    (Home.unit programUnit.token).members programUnit.allProcedures

/-- Program units and all their procedures. -/
def unitMembers (programUnits : List ProgramUnit) : Multiset Member :=
  (programUnits.map ProgramUnit.members).sum

/-- A program unit or procedure with all its procedures. -/
def Home.subtree (home : Home) : ScopeNode → Multiset Member
  | .programUnit node => node.members
  | .procedure node => home.members node.subtree

/-- The members that stand in some frames. -/
def Frames.members : List Frame → Multiset Member
  | [] => 0
  | .scope scope :: rest =>
      (home rest).subtree scope.node + unitMembers scope.nested + members rest
  | .interface opener block :: rest =>
      (home (.interface opener block :: rest)).members (Procedure.forest block.bodies) +
        members rest
  | .derivedType _ _ :: rest => members rest
  | .construct _ _ :: rest => members rest

/-- The members of a source as far as it has been read. -/
def ScanState.members (state : ScanState) : Multiset Member :=
  unitMembers state.units + Frames.members state.frames +
    Home.external.members (Procedure.forest state.external)

/-- The members of a recovered outline. -/
def Outline.members (outline : Outline) : Multiset Member :=
  unitMembers outline.units + Home.external.members (Procedure.forest outline.external)

/-! ## Members together -/

namespace Home

variable (home : Home)

@[simp]
theorem members_nil : home.members [] = 0 := by
  cases home <;> rfl

@[simp]
theorem members_append (front back : List Procedure) :
    home.members (front ++ back) = home.members front + home.members back := by
  cases home <;> simp [members]

theorem members_cons (procedure : Procedure) (rest : List Procedure) :
    home.members (procedure :: rest) = home.members [procedure] + home.members rest :=
  home.members_append [procedure] rest

theorem members_subtree (procedure : Procedure) :
    home.members procedure.subtree = home.members [procedure] +
      (home.members (Procedure.forest procedure.children) +
        home.members (Procedure.interfaceForest procedure.interfaces)) := by
  rw [Procedure.subtree_eq, members_cons, members_append]

/-- Procedures that are the same by themselves are the same members. -/
theorem members_congr {procedures procedures' : List Procedure}
    (same : procedures'.map Procedure.own = procedures.map Procedure.own) :
    home.members procedures' = home.members procedures := by
  have mapped (f : Procedure → Member) : procedures'.map (f ∘ Procedure.own) =
      procedures.map (f ∘ Procedure.own) := by
    rw [← List.map_map, ← List.map_map, same]
  cases home with
  | unit token => exact congrArg Multiset.ofList (mapped (Member.procedure (some token)))
  | external => exact congrArg Multiset.ofList (mapped (Member.procedure none))
  | lost => rfl

end Home

@[simp]
theorem unitMembers_cons (programUnit : ProgramUnit) (rest : List ProgramUnit) :
    unitMembers (programUnit :: rest) = programUnit.members + unitMembers rest := by
  simp [unitMembers]

/-! ## Members are gathered from all scopes -/

/-- Neither what a scope holds nor how it ends shows in a member. -/
theorem Home.overlooks_member : Overlooks member where
  child home node _ := by cases node <;> cases home <;> rfl
  block home node _ := by cases node <;> cases home <;> rfl
  procedureEnd home _ _ := by cases home <;> rfl
  unitEnd _ _ _ := rfl
  visibility home _ _ := by cases home <;> rfl

theorem Home.member_lost (node : Procedure) : member .lost (.procedure node) = 0 :=
  rfl

theorem Home.members_eq (home : Home) (procedures : List Procedure) :
    home.members procedures = Procedure.gathered member home procedures := by
  induction procedures with
  | nil => exact home.members_nil
  | cons first rest ih =>
    rw [members_cons, ih, Procedure.gathered, Procedure.gathered, List.map_cons, List.sum_cons]
    rfl

theorem ProgramUnit.members_eq (programUnit : ProgramUnit) :
    programUnit.members = programUnit.gathered Home.member := by
  rw [members, Home.members_eq]
  rfl

theorem unitMembers_eq (programUnits : List ProgramUnit) :
    unitMembers programUnits = ProgramUnit.gatheredAll Home.member programUnits :=
  congrArg (fun f => (programUnits.map f).sum) (funext ProgramUnit.members_eq)

theorem Frames.members_eq (frames : List Frame) :
    members frames = gathered Home.member frames := by
  induction frames with
  | nil => rfl
  | cons frame rest ih =>
    cases frame with
    | scope scope =>
      rw [members, gathered, ih, unitMembers_eq]
      congr 2
      cases scope.node with
      | programUnit node => exact node.members_eq
      | procedure node => exact Home.members_eq _ _
    | interface opener block => rw [members, gathered, ih, Home.members_eq]
    | derivedType _ _ => exact ih
    | construct _ _ => exact ih

theorem ScanState.members_eq (state : ScanState) :
    state.members = state.gathered Home.member := by
  rw [members, gathered, unitMembers_eq, Frames.members_eq, Home.members_eq]

theorem Outline.members_eq (outline : Outline) :
    outline.members = outline.gathered Home.member := by
  rw [members, gathered, unitMembers_eq, Home.members_eq]

/-- The innermost scope goes where the procedures inside it go, and what is recorded
in it changes no other member. -/
theorem Frames.exists_members_mapScope (frames : List Frame) {f : Scope → Scope} {scope : Scope}
    (innermost : scope? frames = some scope) (same : scope.node.SameHeld (f scope).node)
    (nested_eq : (f scope).nested = scope.nested) :
    ∃ others, members frames = (home frames).member scope.node + others ∧
      members (mapScope f frames) = (home frames).member (f scope).node + others := by
  rw [members_eq, members_eq]
  exact exists_gathered_mapScope Home.member frames innermost same nested_eq

namespace ScanState

variable (state : ScanState)

/-- Closing a block changes no member. -/
theorem members_closeTop (endLine : Nat) : (state.closeTop endLine).members = state.members := by
  rw [members_eq, members_eq]
  exact state.gathered_closeTop Home.overlooks_member Home.member_lost endLine

theorem members_close (closer : Statement.Closer) (first last : Token) :
    (state.close closer first last).members = state.members := by
  rw [members_eq, members_eq]
  exact state.gathered_close Home.overlooks_member Home.member_lost closer first last

theorem members_closeAll (lastLine count : Nat) :
    (state.closeAll lastLine count).members = state.members := by
  rw [members_eq, members_eq]
  exact state.gathered_closeAll Home.overlooks_member Home.member_lost lastLine count

end ScanState

/-- The members of a source are those of the scan when its statements have been
read. -/
theorem Outline.members_ofStatements (lineCount : Nat) (statements : List (List Token)) :
    (ofStatements lineCount statements).members = (ScanState.initial.run statements).members := by
  rw [members_eq, ScanState.members_eq]
  exact ScanState.gathered_ofStatements Home.overlooks_member Home.member_lost lineCount statements

end FortranStyle
