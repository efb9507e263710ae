import FortranStyle.Proofs.Roster.Procedures
import FortranStyle.Proofs.Roster.Scopes
import Mathlib.Data.Multiset.Bind

/-!
# Where USE statements are recorded

A USE statement is recorded once: in the innermost scope while its specification part
lasts, and among the misplaced ones after that or outside any scope.  In the outline
it is found there and nowhere else, unless the scope is one that the outline does not
show.
-/

namespace FortranStyle

/-! ## Places -/

/-- Where a USE statement is recorded. -/
inductive UsePlace
  | misplaced
  /-- In the program unit with a name. -/
  | programUnit (token : Token)
  /-- In the procedure with a name. -/
  | procedure (token : Token)
deriving DecidableEq, Repr

/-- How an outline shows a program unit or procedure that stands in a place. -/
def Home.place? : Home → ScopeNode → Option UsePlace
  | _, .programUnit node => some (.programUnit node.token)
  | .lost, .procedure _ => none
  | _, .procedure node => some (.procedure node.token)

/-- Uses in one place. -/
def UsePlace.listing (place : UsePlace) (uses : List Use) : List (UsePlace × Use) :=
  uses.map (place, ·)

/-- The USE statements that a member shows. -/
def Member.recorded : Member → List (UsePlace × Use)
  | .programUnit node => UsePlace.listing (.programUnit node.token) node.specification.uses
  | .procedure _ node => UsePlace.listing (.procedure node.token) node.specification.uses

/-- The USE statements that members show. -/
def recordedIn (members : Multiset Member) : Multiset (UsePlace × Use) :=
  members.bind fun member => ↑member.recorded

/-- The USE statements of a procedure with their place. -/
def Procedure.recorded (procedure : Procedure) : List (UsePlace × Use) :=
  UsePlace.listing (.procedure procedure.token) procedure.specification.uses

/-- The USE statements of an outline with their places. -/
def Outline.recorded (outline : Outline) : List (UsePlace × Use) :=
  outline.units.flatMap (fun programUnit =>
      UsePlace.listing (.programUnit programUnit.token) programUnit.specification.uses) ++
    outline.procedures.flatMap (fun found => found.1.recorded) ++
    UsePlace.misplaced.listing outline.misplacedUses

@[simp]
theorem recordedIn_add (front back : Multiset Member) :
    recordedIn (front + back) = recordedIn front + recordedIn back :=
  Multiset.add_bind ..

@[simp]
theorem recordedIn_singleton (member : Member) : recordedIn {member} = ↑member.recorded :=
  Multiset.singleton_bind ..

namespace ScanState

/-- The USE statements recorded so far. -/
def recorded (state : ScanState) : Multiset (UsePlace × Use) :=
  recordedIn state.members + ↑(UsePlace.misplaced.listing state.misplacedUses)

/-- Where a USE statement is recorded; nowhere in the outline when its scope is not
shown. -/
def usePlace? (state : ScanState) : Option UsePlace :=
  match Frames.scope? state.frames with
  | some scope =>
      if scope.inSpecification then (Frames.home state.frames).place? scope.node
      else some .misplaced
  | none => some .misplaced

/-- What a statement adds to the USE statements of the outline. -/
def addition? (state : ScanState) (statement : List Token) : Option (UsePlace × Use) :=
  (state.use? statement).bind fun found => state.usePlace?.map (·, found)

/-- What successive statements add to the USE statements of the outline. -/
def additions (state : ScanState) : List (List Token) → List (UsePlace × Use)
  | [] => []
  | statement :: rest =>
      (state.addition? statement).toList ++ (state.step statement).additions rest

/-! ## Statements -/

section Steps

variable (state : ScanState)

theorem misplacedUses_addUnits (units : List ProgramUnit) :
    (state.addUnits units).misplacedUses = state.misplacedUses := by
  unfold addUnits
  split
  · rfl
  · rfl

theorem misplacedUses_closeTop (endLine : Nat) :
    (state.closeTop endLine).misplacedUses = state.misplacedUses := by
  unfold closeTop
  split
  · rfl
  · exact misplacedUses_addUnits _ _
  · rw [misplacedUses_addUnits, addProcedure]
    split
    · rfl
    · rfl
  · rfl
  · rfl

theorem recorded_closeTop (endLine : Nat) :
    (state.closeTop endLine).recorded = state.recorded := by
  rw [recorded, members_closeTop, misplacedUses_closeTop, recorded]

theorem recorded_close (closer : Statement.Closer) (first last : Token) :
    (state.close closer first last).recorded = state.recorded := by
  refine close_of (P := fun after => after.recorded = state.recorded) ?_ ?_ rfl closer first last
  · exact fun after line same => (after.recorded_closeTop line).trans same
  · exact fun _ _ _ same => same

theorem recorded_closeAll (lastLine count : Nat) :
    (state.closeAll lastLine count).recorded = state.recorded := by
  refine closeAll_of (P := fun after => after.recorded = state.recorded) ?_ ?_ rfl lastLine count
  · exact fun after line same => (after.recorded_closeTop line).trans same
  · exact fun _ _ _ same => same

variable {state} in
theorem Steady.recorded_eq {after : ScanState} (steady : state.Steady after) :
    after.recorded = state.recorded := by
  rw [recorded, steady.members_eq, steady.misplacedUses_eq, recorded]

theorem recorded_member_addUse (home : Home) (found : Use) (node : ScopeNode) :
    recordedIn (home.member (node.addUse found)) =
      ↑((home.place? node).toList.map (·, found)) + recordedIn (home.member node) := by
  have append (place : UsePlace) (uses : List Use) :
      (↑(place.listing (uses ++ [found])) : Multiset (UsePlace × Use)) =
        ↑[(place, found)] + ↑(place.listing uses) := by
    rw [UsePlace.listing, List.map_append, ← Multiset.coe_add, add_comm]
    rfl
  cases node with
  | programUnit node =>
    exact (recordedIn_singleton _).trans ((append _ _).trans
      (congrArg _ (recordedIn_singleton (.programUnit node.own)).symm))
  | procedure node =>
    cases home with
    | unit token =>
      exact (recordedIn_singleton _).trans ((append _ _).trans
        (congrArg _ (recordedIn_singleton (.procedure (some token) node.own)).symm))
    | external =>
      exact (recordedIn_singleton _).trans ((append _ _).trans
        (congrArg _ (recordedIn_singleton (.procedure none node.own)).symm))
    | lost => rfl

variable {state} in
theorem usePlace?_of_lasting {scope : Scope} (innermost : Frames.scope? state.frames = some scope)
    (lasts : scope.inSpecification = true) :
    state.usePlace? = (Frames.home state.frames).place? scope.node := by
  simp only [usePlace?, innermost, lasts, if_true]

variable {state} in
theorem usePlace?_of_over {scope : Scope} (innermost : Frames.scope? state.frames = some scope)
    (isOver : scope.inSpecification = false) : state.usePlace? = some .misplaced := by
  simp only [usePlace?, innermost, isOver, Bool.false_eq_true, if_false]

theorem recorded_addUse (found : Use) :
    (state.addUse found).recorded =
      ↑(state.usePlace?.toList.map (·, found)) + state.recorded := by
  have misplaced : ({ state with misplacedUses := state.misplacedUses ++ [found] }).recorded =
      ↑[(UsePlace.misplaced, found)] + state.recorded := by
    simp only [recorded, UsePlace.listing, List.map_append, ← Multiset.coe_add]
    change recordedIn state.members + _ = _
    abel
  cases innermost : Frames.scope? state.frames with
  | none =>
    rw [addUse, usePlace?, innermost]
    exact misplaced
  | some scope =>
    cases inside : scope.inSpecification with
    | false =>
      rw [addUse, innermost, Option.any_some, if_neg (by simp [inside]),
        usePlace?_of_over innermost inside]
      exact misplaced
    | true =>
      obtain ⟨others, before_eq, after_eq⟩ := state.exists_members_addUse found innermost inside
      have misplaced_eq : (state.addUse found).misplacedUses = state.misplacedUses := by
        rw [addUse, innermost, Option.any_some, if_pos inside]
        rfl
      rw [recorded, recorded, before_eq, after_eq, misplaced_eq, recordedIn_add,
        recorded_member_addUse, recordedIn_add, usePlace?_of_lasting innermost inside]
      abel

/-- A statement records at most its own USE. -/
theorem recorded_step (statement : List Token) :
    (state.step statement).recorded = ↑(state.addition? statement).toList + state.recorded := by
  obtain ⟨base, effect, steady⟩ := state.exists_effect statement
  rw [steady.recorded_eq]
  have quiet (noUse : state.use? statement = none) :
      state.recorded = ↑(state.addition? statement).toList + state.recorded := by
    rw [addition?, noUse]
    exact (zero_add _).symm
  have same {after : ScanState} (noUse : state.use? statement = none)
      (members_eq : recordedIn after.members = recordedIn state.members)
      (misplaced_eq : after.misplacedUses = state.misplacedUses) :
      after.recorded = ↑(state.addition? statement).toList + state.recorded := by
    rw [← quiet noUse, recorded, members_eq, misplaced_eq, recorded]
  cases effect with
  | stays noMark _ noUse => exact quiet noUse
  | ends noMark ends =>
    refine same ends.use?_eq_none ?_ rfl
    rw [members_endSpecification]
  | uses isUse =>
    rw [recorded_addUse, addition?, isUse]
    cases state.usePlace? with
    | none => rfl
    | some place => rfl
  | closes mark_eq last =>
    rw [recorded_close]
    exact quiet (use?_eq_none_of_mark? mark_eq)
  | opensUnit mark_eq _ =>
    refine same (use?_eq_none_of_mark? mark_eq) ?_ rfl
    rw [members_push_unit, recordedIn_add, recordedIn_singleton]
    exact zero_add _
  | @opensProcedure header first mark_eq heading =>
    refine same (use?_eq_none_of_mark? mark_eq) ?_ rfl
    have fresh (home : Home) (holder : Option Frame) :
        recordedIn (home.members [.begin header first.line holder]) = 0 := by
      cases home with
      | unit token => exact recordedIn_singleton _
      | external => exact recordedIn_singleton _
      | lost => rfl
    rw [members_push_procedure, recordedIn_add, fresh, zero_add]
  | opensInterface mark_eq empty =>
    refine same (use?_eq_none_of_mark? mark_eq) ?_ rfl
    rw [members_push_interface _ _ empty]
  | opensType mark_eq => exact same (use?_eq_none_of_mark? mark_eq) rfl rfl
  | opensEnumeration mark_eq => exact same (use?_eq_none_of_mark? mark_eq) rfl rfl
  | opensConstruct mark_eq executable =>
    refine same (use?_eq_none_of_mark? mark_eq) ?_ rfl
    exact congrArg recordedIn state.members_endSpecification

theorem recorded_run (statements : List (List Token)) :
    (state.run statements).recorded = ↑(state.additions statements) + state.recorded := by
  induction statements generalizing state with
  | nil => exact (zero_add _).symm
  | cons statement rest ih =>
    have run_eq : state.run (statement :: rest) = (state.step statement).run rest := rfl
    rw [run_eq, ih, recorded_step, additions, ← Multiset.coe_add]
    abel

variable {state} in
theorem token_mem_of_use? {statement : List Token} {found : Use}
    (isUse : state.use? statement = some found) : found.token ∈ statement := by
  apply Statement.unlabelled_subset
  obtain ⟨-, form, -⟩ := use?_eq_some_iff.mp isUse
  generalize Statement.unlabelled statement = tokens at form ⊢
  cases form
  exact List.mem_cons_self

theorem additions_append (front back : List (List Token)) :
    state.additions (front ++ back) =
      state.additions front ++ (state.run front).additions back := by
  induction front generalizing state with
  | nil => rfl
  | cons statement rest ih =>
    rw [List.cons_append, additions, additions, ih, List.append_assoc]
    rfl

/-- The words USE of recorded statements stand in the statements, in order. -/
theorem sublist_tokens_additions (statements : List (List Token)) :
    ((state.additions statements).map (·.2.token)).Sublist statements.flatten := by
  induction statements generalizing state with
  | nil => exact .slnil
  | cons statement rest ih =>
    rw [additions, List.map_append, List.flatten_cons]
    refine List.Sublist.append ?_ (ih _)
    unfold addition?
    cases use_eq : state.use? statement with
    | none => exact List.nil_sublist _
    | some found =>
      cases state.usePlace? with
      | none => exact List.nil_sublist _
      | some place => exact List.singleton_sublist.mpr (token_mem_of_use? use_eq)

end Steps

end ScanState

/-! ## Sources -/

theorem recordedIn_members {home : Home} (shown : home ≠ .lost) (procedures : List Procedure) :
    recordedIn (home.members procedures) = ↑(procedures.flatMap Procedure.recorded) := by
  induction procedures with
  | nil =>
    rw [Home.members_nil]
    rfl
  | cons procedure rest ih =>
    rw [Home.members_cons, recordedIn_add, ih, List.flatMap_cons, ← Multiset.coe_add]
    congr 1
    cases home with
    | unit token => exact recordedIn_singleton _
    | external => exact recordedIn_singleton _
    | lost => contradiction

theorem recordedIn_unitMembers (units : List ProgramUnit) :
    recordedIn (unitMembers units) =
      ↑(units.flatMap fun programUnit =>
          UsePlace.listing (.programUnit programUnit.token) programUnit.specification.uses) +
        ↑((units.flatMap fun programUnit =>
            programUnit.allProcedures.map (·, some programUnit)).flatMap
          fun found => found.1.recorded) := by
  induction units with
  | nil => rfl
  | cons programUnit rest ih =>
    have own_eq : recordedIn programUnit.members =
        ↑(UsePlace.listing (.programUnit programUnit.token) programUnit.specification.uses) +
          ↑(programUnit.allProcedures.flatMap Procedure.recorded) := by
      rw [ProgramUnit.members, ← Multiset.singleton_add, recordedIn_add, recordedIn_singleton,
        recordedIn_members (by simp)]
      rfl
    rw [unitMembers_cons, recordedIn_add, ih, own_eq, List.flatMap_cons, List.flatMap_cons,
      List.flatMap_append, List.flatMap_map, ← Multiset.coe_add, ← Multiset.coe_add]
    abel

theorem Outline.coe_recorded (outline : Outline) :
    (↑outline.recorded : Multiset (UsePlace × Use)) =
      recordedIn outline.members + ↑(UsePlace.misplaced.listing outline.misplacedUses) := by
  rw [recorded, members, recordedIn_add, recordedIn_unitMembers, recordedIn_members (by simp),
    procedures, List.flatMap_append, List.flatMap_map, ← Multiset.coe_add, ← Multiset.coe_add,
    ← Multiset.coe_add, ← add_assoc]

/-- The USE statements of an outline are those that its statements record. -/
theorem perm_recorded_additions (lineCount : Nat) (statements : List (List Token)) :
    (Outline.ofStatements lineCount statements).recorded.Perm
      (ScanState.initial.additions statements) := by
  have closed := (ScanState.initial.run statements).recorded_closeAll (max lineCount 1)
    (ScanState.initial.run statements).depth
  rw [ScanState.recorded, ScanState.members_closeAll, ScanState.recorded_run] at closed
  rw [← Multiset.coe_eq_coe, Outline.coe_recorded, Outline.members_ofStatements]
  exact closed.trans (add_zero _)

/-- No addition of some statements has a word USE of another statement. -/
theorem filter_additions_eq_nil {state : ScanState} {statements : List (List Token)}
    {token : Token}
    (other : token ∉ statements.flatten) :
    (state.additions statements).filter (·.2.token == token) = [] := by
  rw [List.filter_eq_nil_iff]
  intro added listed same
  apply other
  rw [← eq_of_beq same]
  exact (state.sublist_tokens_additions statements).subset (List.mem_map_of_mem listed)

/-- What a statement records is found in the outline by its word USE, at most once and
in its place. -/
theorem filter_recorded_eq {lines : List String} {before after : List (List Token)}
    {statement : List Token} {found : Use}
    (statements_eq : (Tokenized.ofLines lines).statements = before ++ statement :: after)
    (isUse : (ScanState.initial.run before).use? statement = some found) :
    (Outline.ofTokenized (.ofLines lines)).recorded.filter (·.2.token == found.token) =
      (ScanState.initial.run before).usePlace?.toList.map (·, found) := by
  have distinct := Tokenized.nodup_statements lines
  rw [statements_eq, List.flatten_append, List.flatten_cons, List.nodup_append,
    List.nodup_append] at distinct
  obtain ⟨-, ⟨-, -, apartAfter⟩, apartBefore⟩ := distinct
  have listed := ScanState.token_mem_of_use? isUse
  have notBefore : found.token ∉ before.flatten := fun earlier =>
    apartBefore _ earlier _ (List.mem_append_left _ listed) rfl
  have notAfter : found.token ∉ after.flatten := fun later => apartAfter _ listed _ later rfl
  have addition_eq : ((ScanState.initial.run before).addition? statement).toList =
      (ScanState.initial.run before).usePlace?.toList.map (·, found) := by
    rw [ScanState.addition?, isUse]
    cases (ScanState.initial.run before).usePlace? with
    | none => rfl
    | some place => rfl
  have same := (perm_recorded_additions (Tokenized.ofLines lines).lines.length
    (Tokenized.ofLines lines).statements).filter (·.2.token == found.token)
  rw [statements_eq, ScanState.additions_append, List.filter_append,
    filter_additions_eq_nil notBefore, List.nil_append, ScanState.additions, List.filter_append,
    filter_additions_eq_nil notAfter, List.append_nil, addition_eq, ← statements_eq] at same
  change ((Outline.ofTokenized (.ofLines lines)).recorded.filter _).Perm _ at same
  cases place_eq : (ScanState.initial.run before).usePlace? with
  | none =>
    rw [place_eq] at same
    exact List.perm_nil.mp same
  | some place =>
    rw [place_eq] at same
    refine List.perm_singleton.mp (same.trans ?_)
    simp

/-- How a source records its USE statements. -/
structure Outline.RecordsUses (outline : Outline) (statements : List (List Token)) : Prop where
  /-- A scope is known by its name token. -/
  distinct : (outline.units.map (·.token)).Nodup ∧ (outline.procedures.map (·.1.token)).Nodup
  /-- The specification part of an open scope lasts until a statement whose innermost
  scope it is ends it. -/
  lasts : ∀ before after, statements = before ++ after →
    ∀ scope, Frame.scope scope ∈ (ScanState.initial.run before).frames →
      (scope.inSpecification = true ↔ ¬ScanState.Ended before scope.opener)
  /-- Once over, a specification part stays over. -/
  staysOver : ∀ before middle after, statements = before ++ middle ++ after →
    ∀ scope, Frame.scope scope ∈ (ScanState.initial.run before).frames →
      ∀ later, Frame.scope later ∈ (ScanState.initial.run (before ++ middle)).frames →
        later.opener = scope.opener → scope.inSpecification = false →
          later.inSpecification = false
  /-- A statement in an inner scope does not change the specification part of an outer
  one. -/
  inner : ∀ before statement after, statements = before ++ statement :: after →
    ∀ scope, Frame.scope scope ∈ (ScanState.initial.run before).frames →
      ¬(ScanState.initial.run before).StandsIn scope.opener →
        ∀ later, Frame.scope later ∈ (ScanState.initial.run (before ++ [statement])).frames →
          later.opener = scope.opener → later.inSpecification = scope.inSpecification
  /-- An open scope holds the USE statements met in it while its specification part
  lasted, and no others. -/
  holds : ∀ before after, statements = before ++ after →
    ∀ scope, Frame.scope scope ∈ (ScanState.initial.run before).frames →
      scope.node.uses = ScanState.initial.usesIn scope.opener before
  /-- A USE statement is recorded in the innermost scope when nothing has ended its
  specification part. -/
  placed : ∀ before statement after, statements = before ++ statement :: after →
    ∀ found, (ScanState.initial.run before).use? statement = some found →
      ∀ scope, Frames.scope? (ScanState.initial.run before).frames = some scope →
        ¬ScanState.Ended before scope.opener →
          (∃ later, Frames.scope? (ScanState.initial.run (before ++ [statement])).frames =
              some later ∧ later.opener = scope.opener ∧
                later.node.uses = scope.node.uses ++ [found]) ∧
            outline.recorded.filter (·.2.token == found.token) =
              ((Frames.home (ScanState.initial.run before).frames).place? scope.node).toList.map
                (·, found)
  /-- Otherwise, and outside any scope, it is misplaced. -/
  misplaced : ∀ before statement after, statements = before ++ statement :: after →
    ∀ found, (ScanState.initial.run before).use? statement = some found →
      (∀ scope, Frames.scope? (ScanState.initial.run before).frames = some scope →
        ScanState.Ended before scope.opener) →
          outline.recorded.filter (·.2.token == found.token) = [(.misplaced, found)]

/-- Every source records each of its USE statements once, on the right side of the
specification part of its scope. -/
theorem recordsUses_ofTokenized (lines : List String) :
    (Outline.ofTokenized (.ofLines lines)).RecordsUses (Tokenized.ofLines lines).statements := by
  have told {before after : List (List Token)}
      (statements_eq : (Tokenized.ofLines lines).statements = before ++ after) {scope : Scope}
      (listed : Frame.scope scope ∈ (ScanState.initial.run before).frames) :
      ScanState.Told before scope.view := by
    have distinct := Tokenized.nodup_statements lines
    rw [statements_eq, List.flatten_append] at distinct
    exact ScanState.told_run before distinct.of_append_left _ (Frames.view_mem_views listed)
  have lasts_iff {before after : List (List Token)}
      (statements_eq : (Tokenized.ofLines lines).statements = before ++ after) {scope : Scope}
      (listed : Frame.scope scope ∈ (ScanState.initial.run before).frames) :
      scope.inSpecification = true ↔ ¬ScanState.Ended before scope.opener :=
    (told statements_eq listed).1
  constructor
  case distinct =>
    have openings := (ScanState.initial.sublist_tokens_openings _).nodup
      (Tokenized.nodup_statements lines)
    have same := perm_shown_openings (Tokenized.ofLines lines).lines.length
      (Tokenized.ofLines lines).statements
    exact ⟨Locality.nodup_tokens lines, nodup_tokens_of_shown same openings⟩
  case lasts => exact fun before after statements_eq scope listed => lasts_iff statements_eq listed
  case staysOver =>
    intro before middle after statements_eq scope listed later listed' opener_eq isOver
    rw [← Bool.not_eq_true] at isOver ⊢
    rw [lasts_iff statements_eq listed', not_not, opener_eq]
    rw [List.append_assoc] at statements_eq
    rw [lasts_iff statements_eq listed, not_not] at isOver
    exact isOver.append middle
  case inner =>
    intro before statement after statements_eq scope listed outer later listed' opener_eq
    have statements_eq' :
        (Tokenized.ofLines lines).statements = (before ++ [statement]) ++ after := by
      simp [statements_eq]
    rw [Bool.eq_iff_iff, lasts_iff statements_eq' listed', lasts_iff statements_eq listed,
      opener_eq, ScanState.ended_append_singleton]
    simp [outer]
  case holds => exact fun before after statements_eq scope listed => (told statements_eq listed).2
  case placed =>
    intro before statement after statements_eq found isUse scope innermost notOver
    have lasts := (lasts_iff statements_eq (Frames.mem_of_scope? innermost)).mpr notOver
    refine ⟨?_, ?_⟩
    · rw [ScanState.run_append_singleton]
      exact ScanState.exists_scope?_step isUse innermost lasts
    · rw [filter_recorded_eq statements_eq isUse, ScanState.usePlace?_of_lasting innermost lasts]
  case misplaced =>
    intro before statement after statements_eq found isUse isOver
    rw [filter_recorded_eq statements_eq isUse]
    cases innermost : Frames.scope? (ScanState.initial.run before).frames with
    | none =>
      rw [ScanState.usePlace?, innermost]
      rfl
    | some scope =>
      have isFalse : scope.inSpecification = false := by
        rw [← Bool.not_eq_true, lasts_iff statements_eq (Frames.mem_of_scope? innermost), not_not]
        exact isOver scope innermost
      rw [ScanState.usePlace?_of_over innermost isFalse]
      rfl

end FortranStyle
