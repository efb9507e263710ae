import FortranStyle.Proofs.Position.Statement
import FortranStyle.Proofs.Roster.Effect

/-!
# All procedures of a source

The procedures of an outline are found by a walk over what is left of a source in the
end.  What they should be is told while the source is read: every statement that opens
a procedure adds one, and the blocks around the statement decide where the walk finds
it.  The two agree for every source, well formed or not.
-/

namespace FortranStyle

/-! ## Openings -/

/-- A procedure as it opens, and where it is found in the end. -/
structure Opening where
  home : Home
  /-- What the header tells. -/
  procedure : Procedure

/-- How the procedures of an outline show a place: by the name of the program unit, if
there is one.  What is lost is not shown. -/
def Home.shown? : Home → Option (Option Token)
  | unit token => some (some token)
  | external => some none
  | lost => none

/-- How the procedures of an outline show an opened procedure. -/
def Opening.shown? (opening : Opening) : Option (Option Token × Procedure) :=
  opening.home.shown?.map (·, opening.procedure)

/-- How the procedures of an outline show a member. -/
def Member.shown? : Member → Option (Option Token × Procedure)
  | programUnit _ => none
  | procedure holder node => some (holder, node.husk)

namespace ScanState

/-- The procedure that a statement opens. -/
def opening? (state : ScanState) (statement : List Token) : Option Opening :=
  match state.mark? statement with
  | some (.opens ⟨first, .procedure _, _⟩) =>
      (Statement.header? (Statement.unlabelled statement)).map fun header =>
        ⟨Frames.home state.frames,
          (Procedure.begin header first.line (Frames.holder? state.frames)).husk⟩
  | _ => none

/-- The procedures that successive statements open. -/
def openings (state : ScanState) : List (List Token) → List Opening
  | [] => []
  | statement :: rest =>
      (state.opening? statement).toList ++ (state.step statement).openings rest

end ScanState

theorem Home.filterMap_members (home : Home) (procedures : List Procedure) :
    (home.members procedures).filterMap Member.shown? =
      ↑(procedures.filterMap fun node => (Opening.mk home node.husk).shown?) := by
  cases home with
  | unit token =>
    rw [members, Multiset.filterMap_coe, List.filterMap_map]
    rfl
  | external =>
    rw [members, Multiset.filterMap_coe, List.filterMap_map]
    rfl
  | lost => simp [members, Opening.shown?, shown?]

/-! ## Statements -/

namespace ScanState

variable (state : ScanState)

/-- A USE does not show in the header of a procedure. -/
theorem shown_addUse (found : Use) :
    (state.addUse found).members.filterMap Member.shown? =
      state.members.filterMap Member.shown? := by
  cases innermost : Frames.scope? state.frames with
  | none => simp [addUse, innermost, members]
  | some scope =>
    cases inside : scope.inSpecification with
    | false => simp [addUse, innermost, inside, members]
    | true =>
      obtain ⟨others, before_eq, after_eq⟩ := state.exists_members_addUse found innermost inside
      rw [before_eq, after_eq, Multiset.filterMap_add, Multiset.filterMap_add]
      congr 1
      cases scope.node with
      | programUnit node => rfl
      | procedure node =>
        exact (Home.filterMap_members _ _).trans
          (Home.filterMap_members (Frames.home state.frames) [node]).symm

/-- A statement adds the procedure that it opens. -/
theorem shown_step (statement : List Token) :
    (state.step statement).members.filterMap Member.shown? =
      ↑((state.opening? statement).toList.filterMap Opening.shown?) +
        state.members.filterMap Member.shown? := by
  obtain ⟨base, effect, steady⟩ := state.exists_effect statement
  rw [steady.members_eq]
  cases effect with
  | stays noMark _ _ => simp [opening?, noMark]
  | ends noMark _ => simp [opening?, noMark, members_endSpecification]
  | uses isUse => simp [opening?, mark?_of_use? isUse, shown_addUse]
  | closes mark_eq last => simp [opening?, mark_eq, members_close]
  | opensUnit mark_eq _ =>
    rw [members_push_unit, Multiset.filterMap_add]
    simp only [opening?, mark_eq]
    rfl
  | opensProcedure mark_eq heading =>
    rw [members_push_procedure, Multiset.filterMap_add, Home.filterMap_members]
    simp only [opening?, mark_eq, heading]
    rfl
  | opensInterface mark_eq empty =>
    simp [opening?, mark_eq, members_push_interface _ _ empty]
  | opensType mark_eq =>
    simp only [opening?, mark_eq]
    exact (zero_add _).symm
  | opensEnumeration mark_eq =>
    simp only [opening?, mark_eq]
    exact (zero_add _).symm
  | opensConstruct mark_eq executable =>
    simp only [opening?, mark_eq]
    rw [← state.members_endSpecification]
    exact (zero_add _).symm

theorem shown_run (statements : List (List Token)) :
    (state.run statements).members.filterMap Member.shown? =
      ↑((state.openings statements).filterMap Opening.shown?) +
        state.members.filterMap Member.shown? := by
  induction statements generalizing state with
  | nil => exact (zero_add _).symm
  | cons statement rest ih =>
    have run_eq : state.run (statement :: rest) = (state.step statement).run rest := rfl
    rw [run_eq, ih, shown_step, openings, List.filterMap_append, ← Multiset.coe_add]
    abel

end ScanState

/-! ## Places -/

namespace Frames

variable {frames : List Frame}

theorem programUnit?_of_scope?_none (outside : scope? frames = none) :
    programUnit? frames = none := by
  induction frames with
  | nil => rfl
  | cons frame rest ih =>
    cases frame with
    | scope scope => contradiction
    | interface _ _ => exact ih outside
    | derivedType _ _ => exact ih outside
    | construct _ _ => exact ih outside

/-- A procedure is found in the innermost program unit around it. -/
theorem home_eq_unit_iff {token : Token} :
    home frames = .unit token ↔ ∃ node, programUnit? frames = some node ∧ node.token = token := by
  induction frames with
  | nil => simp [home, programUnit?]
  | cons frame rest ih =>
    cases frame with
    | scope scope =>
      obtain ⟨opener, node, inSpecification, nested⟩ := scope
      cases node with
      | programUnit node => simp [home, ScopeNode.home, programUnit?]
      | procedure node => exact ih
    | interface opener block =>
      cases innermost : scope? rest with
      | none => simp [home, programUnit?, innermost, programUnit?_of_scope?_none innermost]
      | some scope => rwa [home_interface rest opener block (by rw [innermost]; rfl)]
    | derivedType _ _ => exact ih
    | construct _ _ => exact ih

end Frames

/-! ## Names -/

theorem Statement.name_mem_of_header? {tokens : List Token} {header : Statement.Header}
    (heading : Statement.header? tokens = some header) : header.name ∈ tokens := by
  unfold Statement.header? at heading
  split at heading
  · rename_i marks word name rest marks_eq
    split at heading
    · obtain ⟨kind, -, header_eq⟩ := Option.map_eq_some_iff.mp heading
      have name_eq : header.name = name := by
        rw [← header_eq]
        split
        · rfl
        · rfl
      have suffix := (Position.suffix_headerMarks? marks_eq).1
      rw [name_eq]
      exact suffix.subset (by simp)
    · contradiction
  · contradiction

namespace ScanState

variable (state : ScanState)

theorem sublist_token_opening? (statement : List Token) :
    ((state.opening? statement).toList.map (·.procedure.token)).Sublist statement := by
  unfold opening?
  split
  · cases heading : Statement.header? (Statement.unlabelled statement) with
    | none => exact List.nil_sublist _
    | some header =>
      have listed := Statement.unlabelled_subset statement (Statement.name_mem_of_header? heading)
      exact List.singleton_sublist.mpr listed
  · exact List.nil_sublist _

/-- The names of opened procedures stand in the statements, in order. -/
theorem sublist_tokens_openings (statements : List (List Token)) :
    ((state.openings statements).map (·.procedure.token)).Sublist statements.flatten := by
  induction statements generalizing state with
  | nil => exact .slnil
  | cons statement rest ih =>
    rw [openings, List.map_append, List.flatten_cons]
    exact (state.sublist_token_opening? statement).append (ih _)

end ScanState

/-! ## Sources -/

/-- How a procedure of an outline is shown. -/
def Procedure.shown (found : Procedure × Option ProgramUnit) : Option Token × Procedure :=
  (found.2.map (·.token), found.1.husk)

theorem Outline.shown_members (outline : Outline) :
    outline.members.filterMap Member.shown? = ↑(outline.procedures.map Procedure.shown) := by
  have held (units : List ProgramUnit) : (unitMembers units).filterMap Member.shown? =
      ↑((units.flatMap fun programUnit =>
        programUnit.allProcedures.map (·, some programUnit)).map Procedure.shown) := by
    induction units with
    | nil => rfl
    | cons programUnit rest ih =>
      rw [unitMembers_cons, Multiset.filterMap_add, ih, ProgramUnit.members,
        Multiset.filterMap_cons_none _ _ rfl, Home.filterMap_members, List.flatMap_cons,
        List.map_append, ← Multiset.coe_add, List.map_map]
      congr 2
      exact congrFun List.filterMap_eq_map _
  rw [members, Multiset.filterMap_add, held, Home.filterMap_members, procedures, List.map_append,
    ← Multiset.coe_add, List.map_map]
  congr 2
  exact congrFun List.filterMap_eq_map _

/-- The procedures of an outline are those that statements open, those apart that are
lost. -/
theorem perm_shown_openings (lineCount : Nat) (statements : List (List Token)) :
    ((Outline.ofStatements lineCount statements).procedures.map Procedure.shown).Perm
      ((ScanState.initial.openings statements).filterMap Opening.shown?) := by
  rw [← Multiset.coe_eq_coe, ← Outline.shown_members, Outline.members_ofStatements,
    ScanState.shown_run]
  exact add_zero _

/-- The tokens of a source are different. -/
theorem Tokenized.nodup_statements (lines : List String) :
    (ofLines lines).statements.flatten.Nodup :=
  (pairwise_start_ne lines).imp fun different same => different (congrArg Token.start same)

/-- A token of a statement is told by its place. -/
theorem Tokenized.eq_of_start_eq {lines : List String} {first second : Token}
    (listed : first ∈ (ofLines lines).statements.flatten)
    (listed' : second ∈ (ofLines lines).statements.flatten)
    (same : first.start = second.start) : first = second :=
  List.inj_on_of_nodup_map (List.pairwise_map.mpr (pairwise_start_ne lines)) listed listed' same

section Shown

variable {found : List (Procedure × Option ProgramUnit)} {openings : List Opening}

theorem sublist_tokens_shown (openings : List Opening) :
    ((openings.filterMap Opening.shown?).map (·.2.token)).Sublist
      (openings.map (·.procedure.token)) := by
  induction openings with
  | nil => exact .slnil
  | cons opening rest ih =>
    obtain ⟨home, procedure⟩ := opening
    cases home with
    | unit token => exact ih.cons_cons _
    | external => exact ih.cons_cons _
    | lost => exact ih.cons _

variable (same : (found.map Procedure.shown).Perm (openings.filterMap Opening.shown?))

include same

theorem exists_opening_of_mem {yielded : Procedure × Option ProgramUnit}
    (member : yielded ∈ found) :
    ∃ opening ∈ openings, yielded.1.husk = opening.procedure ∧
      opening.home.shown? = some (yielded.2.map (·.token)) := by
  obtain ⟨opening, listed, shown_eq⟩ :=
    List.mem_filterMap.mp (same.subset (List.mem_map_of_mem member))
  obtain ⟨place, place_eq, pair_eq⟩ := Option.map_eq_some_iff.mp shown_eq
  obtain ⟨place_eq', husk_eq⟩ := Prod.mk.inj pair_eq
  exact ⟨opening, listed, husk_eq.symm, by rw [place_eq, place_eq']⟩

theorem nodup_tokens_of_shown (distinct : (openings.map (·.procedure.token)).Nodup) :
    (found.map (·.1.token)).Nodup := by
  have tokens_eq : found.map (·.1.token) = (found.map Procedure.shown).map (·.2.token) := by
    rw [List.map_map]
    rfl
  rw [tokens_eq, (same.map _).nodup_iff]
  exact (sublist_tokens_shown openings).nodup distinct

end Shown

/-- The procedures of an outline are the opened ones: each is found once, in the
program unit around it, and only those are missing that have no place. -/
structure Outline.Yields (outline : Outline) (openings : List Opening) : Prop where
  /-- No two procedures share their name token. -/
  distinct : (openings.map (·.procedure.token)).Nodup
  unitsDistinct : (outline.units.map (·.token)).Nodup
  once : ∀ opening ∈ openings, ∀ place, opening.home.shown? = some place →
    ∃ found, outline.procedures.filter (·.1.token == opening.procedure.token) = [found] ∧
      found.1.husk = opening.procedure ∧ found.2.map (·.token) = place
  never : ∀ opening ∈ openings, opening.home = .lost →
    outline.procedures.filter (·.1.token == opening.procedure.token) = []
  opened : ∀ found ∈ outline.procedures, ∃ opening ∈ openings,
    found.1.husk = opening.procedure ∧ opening.home.shown? = some (found.2.map (·.token))
  held : ∀ found ∈ outline.procedures, ∀ programUnit ∈ found.2,
    programUnit ∈ outline.units ∧ found.1 ∈ programUnit.allProcedures

/-- Every procedure that a source opens is found once among the procedures of its
outline, with the program unit that holds it, and no other procedure is found. -/
theorem yields_openings (lines : List String) :
    (Outline.ofTokenized (.ofLines lines)).Yields
      (ScanState.initial.openings (Tokenized.ofLines lines).statements) := by
  have distinct := (ScanState.initial.sublist_tokens_openings _).nodup
    (Tokenized.nodup_statements lines)
  have same := perm_shown_openings (Tokenized.ofLines lines).lines.length
    (Tokenized.ofLines lines).statements
  constructor
  case distinct => exact distinct
  case unitsDistinct => exact Locality.nodup_tokens lines
  case once =>
    intro opening member place place_eq
    have listed : (place, opening.procedure) ∈
        (ScanState.initial.openings (Tokenized.ofLines lines).statements).filterMap
          Opening.shown? := by
      refine List.mem_filterMap.mpr ⟨opening, member, ?_⟩
      rw [Opening.shown?, place_eq, Option.map_some]
    obtain ⟨found, yielded, shown_eq⟩ := List.mem_map.mp (same.symm.subset listed)
    obtain ⟨place_eq', husk_eq⟩ := Prod.mk.inj shown_eq
    refine ⟨found, ?_, husk_eq, place_eq'⟩
    rw [← husk_eq]
    exact filter_key_eq_singleton (fun found : Procedure × Option ProgramUnit => found.1.token)
      (nodup_tokens_of_shown same distinct) yielded
  case never =>
    intro opening member home_eq
    rw [List.filter_eq_nil_iff]
    intro found yielded token_eq
    obtain ⟨other, listed, husk_eq, shown_eq⟩ := exists_opening_of_mem same yielded
    have token_eq' : other.procedure.token = opening.procedure.token := by
      rw [← husk_eq]
      exact eq_of_beq token_eq
    obtain rfl := List.inj_on_of_nodup_map distinct listed member token_eq'
    rw [home_eq] at shown_eq
    contradiction
  case opened => exact fun found yielded => exists_opening_of_mem same yielded
  case held =>
    rintro ⟨procedure, place⟩ yielded programUnit rfl
    rcases List.mem_append.mp yielded with inUnit | outside
    · obtain ⟨holder, started, listed⟩ := List.mem_flatMap.mp inUnit
      obtain ⟨found, held, pair_eq⟩ := List.mem_map.mp listed
      cases pair_eq
      exact ⟨started, held⟩
    · obtain ⟨found, -, pair_eq⟩ := List.mem_map.mp outside
      cases pair_eq

end FortranStyle
