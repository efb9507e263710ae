import FortranStyle.Proofs.Intent.Recording
import FortranStyle.Proofs.Nesting.Account
import FortranStyle.Proofs.Position.Statement
import Mathlib.Data.Multiset.Bind

/-!
# The intents of a procedure in the end

The tokens of headers are different, so the arguments of a procedure are told by its
name.  From any statement on, the arguments of a procedure change by the intents that
are told while it is the innermost scope, in the order of the statements.
-/

namespace FortranStyle

/-! ## The tokens of a header -/

namespace Bracket

theorem flatten_splitFrom_sublist (separator : String) (depth : Int) (tokens : List Token) :
    (splitFrom separator depth tokens).flatten.Sublist tokens := by
  induction tokens generalizing depth with
  | nil => exact .slnil
  | cons token rest ih =>
    rw [splitFrom]
    split
    · exact (ih depth).cons token
    · have inner := ih (depthAfter depth token)
      cases items_eq : splitFrom separator (depthAfter depth token) rest with
      | nil => exact List.nil_sublist _
      | cons item items =>
        rw [items_eq] at inner
        exact inner.cons_cons token

end Bracket

namespace Statement

theorem argumentNames_sublist (tokens : List Token) : (argumentNames tokens).Sublist tokens := by
  refine List.Sublist.trans ?_ (Bracket.flatten_splitFrom_sublist "," 0 tokens)
  rw [argumentNames, Bracket.items, Bracket.split]
  induction Bracket.splitFrom "," 0 tokens with
  | nil => exact .slnil
  | cons item items ih =>
    rw [List.filterMap_cons, List.flatten_cons]
    split
    · exact ih.trans (List.sublist_append_right _ _)
    · rename_i name name_eq
      split at name_eq
      · split at name_eq
        · cases name_eq
          exact ih.cons_cons name
        · contradiction
      · contradiction

/-- The name of a header and its arguments stand in its statement, in order. -/
theorem tokens_signature_sublist {tokens : List Token} {header : Header}
    (heading : header? tokens = some header) : header.signature.tokens.Sublist tokens := by
  have tokens_eq : header.signature.tokens = header.name :: header.arguments := by
    rw [Signature.tokens, Header.signature, List.map_map]
    exact congrArg (header.name :: ·) (List.map_id _)
  rw [tokens_eq]
  unfold header? at heading
  split at heading
  · rename_i marks word name rest marks_eq
    split at heading
    · obtain ⟨kind, -, rfl⟩ := Option.map_eq_some_iff.mp heading
      refine List.Sublist.trans ?_ (Position.suffix_headerMarks? marks_eq).1.sublist
      apply List.Sublist.cons
      split
      · apply List.Sublist.cons_cons
        refine (argumentNames_sublist _).trans ?_
        exact (List.drop_sublist _ _).trans (List.take_sublist _ _)
      · exact (List.nil_sublist rest).cons_cons name
    · contradiction
  · contradiction

end Statement

/-- What is listed by two members is listed twice. -/
theorem eq_of_nodup_bind {α β : Type} {members : Multiset α} {listed : α → Multiset β}
    (distinct : (members.bind listed).Nodup) {first second : α} (member : first ∈ members)
    (member' : second ∈ members) {item : β} (inside : item ∈ listed first)
    (inside' : item ∈ listed second) : first = second := by
  by_contra different
  obtain ⟨others, rfl⟩ := Multiset.exists_cons_of_mem member
  have later : second ∈ others := (Multiset.mem_cons.mp member').resolve_left (Ne.symm different)
  rw [Multiset.cons_bind, Multiset.nodup_add] at distinct
  exact Multiset.disjoint_left.mp distinct.2.2 inside
    (Multiset.mem_bind.mpr ⟨second, later, inside'⟩)

namespace ScanState

/-! ## Different tokens -/

/-- When every statement adds no more than its own tokens, so do successive statements. -/
theorem run_le {told : ScanState → Multiset Token}
    (step_le : ∀ state statement, told (step state statement) ≤ ↑statement + told state)
    (state : ScanState) (statements : List (List Token)) :
    told (state.run statements) ≤ ↑statements.flatten + told state := by
  induction statements generalizing state with
  | nil => exact (zero_add _).ge
  | cons statement rest ih =>
    refine (ih (state.step statement)).trans ?_
    rw [List.flatten_cons, ← Multiset.coe_add, add_comm (statement : Multiset Token), add_assoc]
    gcongr
    exact step_le state statement

/-- The tokens that the headers of a source list as far as it has been read. -/
def headed (state : ScanState) : Multiset Token :=
  state.signatures.bind fun signature => signature.tokens

theorem sublist_tokens_signed (state : ScanState) (statement : List Token) :
    ((state.signed statement).flatMap Signature.tokens).Sublist statement := by
  unfold signed
  split
  · cases heading : Statement.header? (Statement.unlabelled statement) with
    | none => exact List.nil_sublist _
    | some header =>
      have inside := (Statement.tokens_signature_sublist heading).trans
        (Statement.unlabelled_sublist statement)
      simpa using inside
  · exact List.nil_sublist _

/-- The innermost procedure has a signature of its own, and intents are set there. -/
theorem exists_signatures_give {state : ScanState} {procedure : Procedure}
    (innermost : Frames.procedure? state.frames = some procedure) :
    ∃ others, state.signatures = procedure.signature ::ₘ others ∧
      ∀ intents, (state.mapProcedure (·.give intents)).signatures =
        procedure.signature.give intents ::ₘ others := by
  unfold Frames.procedure? at innermost
  split at innermost
  · rename_i opener node inSpecification nested scope_eq
    obtain rfl := Option.some.inj innermost
    obtain ⟨others, mapped⟩ := Frames.exists_signatures_mapScope scope_eq
    have whole := mapped id
    rw [Frames.mapScope_eq_self (f := id) fun _ _ => rfl, id, Scope.signatures,
      ScopeNode.signatures, Procedure.signatures_subtree, ← Multiset.singleton_add] at whole
    refine ⟨ProgramUnit.signatures state.units +
      (Procedure.signatures (Procedure.forest node.children) +
        Procedure.signatures (Procedure.interfaceForest node.interfaces) +
        ProgramUnit.signatures nested + others) +
      Procedure.signatures (Procedure.forest state.external), ?_, fun intents => ?_⟩
    · rw [signatures, whole, ← Multiset.singleton_add]
      abel
    · rw [signatures, mapProcedure, mapNode, mapFrames, Frames.mapNode, mapped, Scope.signatures,
        ScopeNode.mapProcedure, ScopeNode.signatures, Procedure.signatures_subtree,
        Procedure.signature_give, ← Multiset.singleton_add, ← Multiset.singleton_add]
      change _ + (_ + (Procedure.signatures (Procedure.forest node.children) +
        Procedure.signatures (Procedure.interfaceForest node.interfaces)) + _ + _) + _ = _
      abel
  · contradiction

/-- Where the innermost scope is no procedure, no intent is set. -/
theorem mapProcedure_of_procedure?_none {state : ScanState} (f : Procedure → Procedure)
    (outside : Frames.procedure? state.frames = none) : state.mapProcedure f = state := by
  have same : Frames.mapNode (·.mapProcedure f) state.frames = state.frames := by
    apply Frames.mapScope_eq_self
    rintro ⟨opener, node, inSpecification, nested⟩ innermost
    cases node with
    | programUnit node => rfl
    | procedure node =>
      rw [Option.mem_def] at innermost
      rw [Frames.procedure?, innermost] at outside
      contradiction
  rw [mapProcedure, mapNode, mapFrames, same]

theorem headed_mapProcedure (state : ScanState) (intents : List (String × String)) :
    (state.mapProcedure (·.give intents)).headed = state.headed := by
  cases innermost : Frames.procedure? state.frames with
  | none => rw [mapProcedure_of_procedure?_none _ innermost]
  | some procedure =>
    obtain ⟨others, before_eq, after_eq⟩ := exists_signatures_give innermost
    rw [headed, headed, before_eq, after_eq, Multiset.cons_bind, Multiset.cons_bind,
      Signature.tokens_give]

/-- The tokens of a header that a statement opens stand in the statement. -/
theorem headed_step_le (state : ScanState) (statement : List Token) :
    (state.step statement).headed ≤ ↑statement + state.headed := by
  obtain ⟨lost, whole⟩ := Multiset.le_iff_exists_add.mp (state.signatures_step_le statement)
  have told : ((state.signed statement : Multiset Signature).bind fun signature =>
      (↑signature.tokens : Multiset Token)) ≤ ↑statement := by
    rw [Multiset.coe_bind]
    exact (state.sublist_tokens_signed statement).subperm
  calc (state.step statement).headed
      ≤ (state.step statement).headed + lost.bind fun signature => ↑signature.tokens :=
        Multiset.le_add_right _ _
    _ = ((state.signed statement : Multiset Signature).bind fun signature => ↑signature.tokens) +
          (state.mapProcedure (·.give (state.intents statement))).headed := by
        rw [headed, ← Multiset.add_bind, ← whole, Multiset.add_bind, headed]
    _ ≤ ↑statement + state.headed := by
        rw [headed_mapProcedure]
        gcongr

theorem headed_run_le (state : ScanState) (statements : List (List Token)) :
    (state.run statements).headed ≤ ↑statements.flatten + state.headed :=
  run_le headed_step_le state statements

theorem nodup_tokens {state : ScanState} (distinct : state.headed.Nodup) :
    (state.signatures.map (·.token)).Nodup := by
  refine Multiset.nodup_of_le ?_ distinct
  have bound : state.headed = state.signatures.map (·.token) +
      state.signatures.bind fun signature => ↑(signature.arguments.map (·.token)) :=
    Multiset.bind_cons state.signatures Signature.token
      fun signature => ↑(signature.arguments.map Argument.token)
  rw [bound]
  exact Multiset.le_add_right _ _

/-- No token stands in two headers. -/
theorem eq_of_mem_tokens {state : ScanState} (distinct : state.headed.Nodup)
    {signature other : Signature} (listed : signature ∈ state.signatures)
    (listed' : other ∈ state.signatures) {token : Token} (inside : token ∈ signature.tokens)
    (inside' : token ∈ other.tokens) : signature = other :=
  eq_of_nodup_bind distinct listed listed' (Multiset.mem_coe.mpr inside)
    (Multiset.mem_coe.mpr inside')

/-! ## The intents of one procedure -/

/-- The intents that a statement tells of the arguments of the procedure with a name. -/
def intentsFor (token : Token) (state : ScanState) (statement : List Token) :
    List (String × String) :=
  if (Frames.procedure? state.frames).any (·.token == token) then state.intents statement else []

/-- The intents that successive statements tell of the arguments of the procedure with a
name, in order. -/
def intentHistory (token : Token) (state : ScanState) : List (List Token) → List (String × String)
  | [] => []
  | statement :: rest =>
      state.intentsFor token statement ++ intentHistory token (state.step statement) rest

variable {token : Token} {told : List Argument}

/-- One statement sets the intents that it tells of a procedure in each signature with the
name. -/
theorem arguments_step {state : ScanState} {statement : List Token} (fresh : token ∉ statement)
    (distinct : state.headed.Nodup)
    (kept : ∀ signature ∈ state.signatures, signature.token = token → signature.arguments = told) :
    ∀ signature ∈ (state.step statement).signatures, signature.token = token →
      signature.arguments = Argument.setIntents (state.intentsFor token statement) told := by
  intro signature member named
  rcases Multiset.mem_add.mp (Multiset.mem_of_le (state.signatures_step_le statement) member) with
    opened | recorded
  · -- The statement does not name the procedure, so it does not open it.
    have listed : signature.token ∈ (state.signed statement).flatMap Signature.tokens :=
      List.mem_flatMap.mpr ⟨signature, opened, List.mem_cons_self⟩
    rw [named] at listed
    exact absurd ((state.sublist_tokens_signed statement).subset listed) fresh
  cases innermost : Frames.procedure? state.frames with
  | none =>
    rw [mapProcedure_of_procedure?_none _ innermost] at recorded
    simpa [intentsFor, innermost] using kept signature recorded named
  | some procedure =>
    obtain ⟨others, before_eq, after_eq⟩ := exists_signatures_give innermost
    have own : procedure.signature ∈ state.signatures := by
      rw [before_eq]
      exact Multiset.mem_cons_self _ _
    rw [after_eq] at recorded
    rcases Multiset.mem_cons.mp recorded with rfl | elsewhere
    · have isIt : procedure.token = token := named
      rw [intentsFor, innermost, Option.any_some, isIt, beq_self_eq_true, if_pos rfl]
      exact congrArg (Argument.setIntents _) (kept _ own isIt)
    · have other : procedure.token ≠ token := by
        -- Two signatures with the name would be told apart by nothing.
        intro isIt
        have twice := nodup_tokens distinct
        rw [before_eq, Multiset.map_cons] at twice
        refine (Multiset.nodup_cons.mp twice).1 (Multiset.mem_map.mpr ⟨signature, elsewhere, ?_⟩)
        exact named.trans isIt.symm
      have listed : signature ∈ state.signatures := by
        rw [before_eq]
        exact Multiset.mem_cons_of_mem elsewhere
      simpa [intentsFor, innermost, other] using kept signature listed named

/-- Successive statements set the intents that they tell of a procedure. -/
theorem arguments_run {state : ScanState} {statements : List (List Token)}
    (fresh : token ∉ statements.flatten)
    (distinct : (↑statements.flatten + state.headed : Multiset Token).Nodup)
    (kept : ∀ signature ∈ state.signatures, signature.token = token → signature.arguments = told) :
    ∀ signature ∈ (state.run statements).signatures, signature.token = token →
      signature.arguments = Argument.setIntents (state.intentHistory token statements) told := by
  induction statements generalizing state told with
  | nil => exact kept
  | cons statement rest ih =>
    rw [List.flatten_cons, List.mem_append, not_or] at fresh
    rw [List.flatten_cons, ← Multiset.coe_add, add_comm (statement : Multiset Token),
      add_assoc] at distinct
    rw [intentHistory, Argument.setIntents_append]
    apply ih fresh.2
    · refine Multiset.nodup_of_le ?_ distinct
      gcongr
      exact state.headed_step_le statement
    · refine arguments_step fresh.1 (Multiset.nodup_of_le ?_ distinct) kept
      rw [← add_assoc]
      exact Multiset.le_add_left _ _

end ScanState

/-! ## Outlines -/

/-- The signatures of the procedures of an outline are among those that have been read. -/
theorem Outline.signatures_le (lineCount : Nat) (statements : List (List Token)) :
    Procedure.signatures ((ofStatements lineCount statements).procedures.map (·.1)) ≤
      (ScanState.initial.run statements).signatures := by
  have procedures_eq (outline : Outline) : outline.procedures.map (·.1) =
      outline.units.flatMap ProgramUnit.allProcedures ++ Procedure.forest outline.external := by
    rw [procedures, List.map_append, List.map_flatMap, List.map_map]
    simp only [List.map_map, Function.comp_def, List.map_id']
  have closed := ScanState.closeAll_of
    (P := fun after => after.signatures ≤ (ScanState.initial.run statements).signatures)
    (fun after line le => (after.signatures_closeTop_le line).trans le) (fun _ _ _ le => le)
    le_rfl (max lineCount 1) (ScanState.initial.run statements).depth
  rw [ScanState.signatures, ScanState.frames_closeAll, Frames.signatures, add_zero] at closed
  rw [procedures_eq, Procedure.signatures_append]
  exact closed

end FortranStyle
