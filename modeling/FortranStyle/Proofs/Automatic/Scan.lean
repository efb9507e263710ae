import FortranStyle.Proofs.Automatic.Posting
import FortranStyle.Proofs.Roster.Scopes

/-!
# Judgements while a source is read

A statement posts behind all that is posted already, and the constants of the program unit
by which it judges are those in the ledger of the innermost program unit.  So the
declarations of a source stay judged by those in front of them.
-/

namespace FortranStyle

open Ledger (posted postings written GivesUnit)
open Statement (unlabelled typeDeclaration)

/-- The innermost program unit has a ledger of its own. -/
theorem Frames.ledger_mem_of_programUnit? {frames : List Frame} {node : ProgramUnit}
    (innermost : programUnit? frames = some node) :
    (Home.unit node.token, (ScopeNode.programUnit node).ledger) ∈
      Frames.gathered Home.kept frames := by
  induction frames with
  | nil => contradiction
  | cons frame rest ih =>
    cases frame with
    | scope scope =>
      obtain ⟨opener, held, inSpecification, nested⟩ := scope
      cases held with
      | programUnit held =>
        cases innermost
        refine Multiset.mem_add.mpr (.inl (Multiset.mem_add.mpr (.inl ?_)))
        exact Multiset.mem_add.mpr (.inl (Multiset.mem_singleton_self _))
      | procedure held => exact Multiset.mem_add.mpr (.inr (ih innermost))
    | interface _ _ => exact Multiset.mem_add.mpr (.inr (ih innermost))
    | derivedType _ _ => exact ih innermost
    | construct _ _ => exact ih innermost

namespace ScanState

variable {state : ScanState} {statement : List Token}

theorem ledger_mem_of_programUnit? {node : ProgramUnit}
    (innermost : Frames.programUnit? state.frames = some node) :
    (Home.unit node.token, (ScopeNode.programUnit node).ledger) ∈ state.ledgers :=
  Multiset.mem_add.mpr (.inl (Multiset.mem_add.mpr
    (.inr (Frames.ledger_mem_of_programUnit? innermost))))

section Declaring

variable {ledger : Ledger} {others : Multiset (Home × Ledger)}
  (distinct : (written state.ledgers).Nodup)
  (ledgers_eq : state.ledgers = {(Frames.home state.frames, ledger)} + others)
include distinct ledgers_eq

/-- No other scope has the name of the innermost one. -/
theorem token_ne_of_mem_others : ∀ entry ∈ others, entry.2.token ≠ ledger.token := by
  rw [ledgers_eq, written, Multiset.add_bind, Multiset.nodup_add] at distinct
  intro entry entered same
  have own : ledger.token ∈
      Multiset.bind {(Frames.home state.frames, ledger)} fun entry => ↑entry.2.tokens := by
    rw [Multiset.singleton_bind]
    exact List.mem_cons_self
  refine Multiset.disjoint_left.mp distinct.2.2 own ?_
  refine Multiset.mem_bind.mpr ⟨entry, entered, ?_⟩
  rw [← same]
  exact List.mem_cons_self

/-- The constants by which a statement judges are those of the innermost program unit. -/
theorem givesUnit_unitConstants
    (units : ∀ entry ∈ state.ledgers, entry.2.arguments = none →
      entry.1 = .unit entry.2.token) :
    GivesUnit (Frames.home state.frames) ledger others state.unitConstants := by
  intro isProcedure name
  have listed {entry : Home × Ledger} (entered : entry ∈ others) : entry ∈ state.ledgers := by
    rw [ledgers_eq]
    exact Multiset.mem_add.mpr (.inr entered)
  unfold unitConstants
  cases innermost : Frames.programUnit? state.frames with
  | none =>
    refine iff_of_false List.not_mem_nil ?_
    rintro ⟨posting, member, home_eq, isUnit, -⟩
    obtain ⟨entry, entered, declaration, -, rfl⟩ := Ledger.mem_posted.mp member
    have placed := (units entry (listed entered) isUnit).symm.trans home_eq
    obtain ⟨node, found, -⟩ := Frames.home_eq_unit_iff.mp placed.symm
    rw [innermost] at found
    contradiction
  | some node =>
    have own := ledger_mem_of_programUnit? innermost
    have home_eq : Frames.home state.frames = .unit node.token :=
      Frames.home_eq_unit_iff.mpr ⟨node, innermost, rfl⟩
    have elsewhere : (Home.unit node.token, (ScopeNode.programUnit node).ledger) ∈ others := by
      rw [ledgers_eq, Multiset.mem_add, Multiset.mem_singleton] at own
      refine own.resolve_left fun same => isProcedure ?_
      rw [← (Prod.mk.inj same).2]
      rfl
    constructor
    · intro member
      obtain ⟨declaration, kept, rfl⟩ := List.mem_map.mp member
      obtain ⟨declared, isParameter⟩ := List.mem_filter.mp kept
      exact ⟨_, Ledger.mem_posted.mpr ⟨_, elsewhere, declaration, declared, rfl⟩, home_eq.symm,
        rfl, isParameter, rfl⟩
    · rintro ⟨posting, member, place_eq, isUnit, isParameter, rfl⟩
      obtain ⟨entry, entered, declaration, declared, rfl⟩ := Ledger.mem_posted.mp member
      -- The ledger of a unit with the same place is that of the unit.
      have token_eq : entry.2.token = node.token := by
        have placed := (units entry (listed entered) isUnit).symm.trans place_eq
        rw [home_eq] at placed
        exact Home.unit.inj placed
      have entry_eq := eq_of_nodup_bind distinct (listed entered) own
        (Multiset.mem_coe.mpr (List.mem_cons_self (a := entry.2.token)))
        (by rw [token_eq]; exact Multiset.mem_coe.mpr List.mem_cons_self)
      subst entry_eq
      exact List.mem_map.mpr ⟨declaration, List.mem_filter.mpr ⟨declared, isParameter⟩, rfl⟩

end Declaring

/-- A statement keeps all declarations judged, when its tokens stand behind those that are
told already. -/
theorem settled_step
    (units : ∀ entry ∈ state.ledgers, entry.2.arguments = none → entry.1 = .unit entry.2.token)
    (distinct : (written state.ledgers).Nodup)
    (inFront : ∀ earlier ∈ written state.ledgers, ∀ token ∈ statement,
      Before earlier.start token.start)
    (ordered : statement.Pairwise fun first second => Before first.start second.start)
    (settled : Posting.Settled (posted state.ledgers)) :
    Posting.Settled (posted (state.step statement).ledgers) := by
  rcases state.alters_step statement with ⟨entered, enters, ledgers_eq⟩ | records
  · have nothing : posted entered = 0 := by
      obtain rfl | ⟨entry, rfl, fresh⟩ := enters.isFresh
      · rfl
      · rw [posted, Multiset.singleton_bind, postings, fresh.declarations_eq]
        rfl
    rwa [ledgers_eq, posted, Multiset.add_bind, ← posted, ← posted, nothing, zero_add]
  · obtain ⟨write, writes, others, before_eq, after_eq⟩ := records
    rcases state.innermostLedger_cases with nothing | ⟨scope, -, single⟩
    · rw [nothing, Multiset.map_zero] at after_eq
      rw [nothing] at before_eq
      rwa [after_eq, ← before_eq]
    · rw [single, Multiset.map_singleton, Prod.map_apply, id] at after_eq
      rw [single] at before_eq
      have told := settled
      rw [before_eq] at told
      rw [after_eq]
      cases writes with
      | nothing => exact told
      | declares =>
        have inside := Statement.declared_sublist (unlabelled statement)
        have behind := inside.trans (Statement.unlabelled_sublist statement)
        have places := List.pairwise_map.mp (ordered.sublist behind)
        refine Ledger.settled_foldl ?_ (token_ne_of_mem_others distinct before_eq)
          (givesUnit_unitConstants distinct before_eq units) places ?_ told
        · intro declaration listed
          obtain ⟨entity, -, declares⟩ := List.mem_filterMap.mp listed
          exact (Statement.of_declare? declares).2.2
        · intro earlier member declaration listed
          rw [← before_eq] at member
          exact inFront _ (Ledger.exists_written_of_mem_posted member) _
            (behind.subset (List.mem_map_of_mem listed))
      | @acts action found =>
        have same : postings (Frames.home state.frames, scope.node.ledger.act action) =
            postings (Frames.home state.frames, scope.node.ledger) := by
          unfold Ledger.act
          split <;> rfl
        rwa [Ledger.posted_cons, same, ← Ledger.posted_cons]

/-- After all statements every declaration is judged by those in front of it. -/
theorem settled_run {statements : List (List Token)}
    (ordered : statements.flatten.Pairwise fun first second =>
      Before first.start second.start) :
    Posting.Settled (posted (initial.run statements).ledgers) := by
  induction statements using List.reverseRecOn with
  | nil => exact fun posting member => absurd member (Multiset.notMem_zero _)
  | append_singleton before statement ih =>
    rw [List.flatten_append, List.flatten_singleton, List.pairwise_append] at ordered
    obtain ⟨earlier, own, across⟩ := ordered
    have bound : written (initial.run before).ledgers ≤ ↑before.flatten :=
      (initial.written_run_le before).trans (add_zero _).le
    have distinct : before.flatten.Nodup := earlier.imp fun order same => by
      rw [same] at order
      unfold Before at order
      omega
    rw [run_append_singleton]
    exact settled_step (home_eq_of_mem_ledgers before) (Multiset.nodup_of_le bound distinct)
      (fun token member => across token (Multiset.mem_of_le bound member)) own (ih earlier)

end ScanState

end FortranStyle
