import FortranStyle.Proofs.Roster.Member

/-!
# The signatures of procedures

A procedure has a signature from its header on: its name and its dummy arguments, each
with its intent when that has been told.  The signatures of a source are those of all
procedures that have started, open or not, in no order.  Closing a block adds nothing to
them, and what is recorded in the innermost procedure changes one of them at most.
-/

namespace FortranStyle

/-! ## Dummy arguments -/

namespace Argument

/-- A dummy argument, whether it is a procedure or not. -/
def bare (argument : Argument) : Argument :=
  { argument with isProcedure := false }

/-- Set the intents of arguments one after the other, each of the first argument of a
name. -/
def setIntents (intents : List (String × String)) (arguments : List Argument) : List Argument :=
  intents.foldl (fun found (name, intent) => setIntent intent name found) arguments

theorem map_bare_markProcedure (name : String) (arguments : List Argument) :
    (markProcedure name arguments).map bare = arguments.map bare := by
  induction arguments with
  | nil => rfl
  | cons argument rest ih =>
    rw [markProcedure]
    split
    · rfl
    · rw [List.map_cons, List.map_cons, ih]

/-- What is not seen of an intent is the same when intents are set. -/
theorem map_setIntent {α : Type} {see : Argument → α}
    (blind : ∀ argument intent, see { argument with intent } = see argument)
    (intent name : String) (arguments : List Argument) :
    (setIntent intent name arguments).map see = arguments.map see := by
  induction arguments with
  | nil => rfl
  | cons argument rest ih =>
    rw [setIntent]
    split
    · rw [List.map_cons, blind, List.map_cons]
    · rw [List.map_cons, List.map_cons, ih]

theorem map_setIntents {α : Type} {see : Argument → α}
    (blind : ∀ argument intent, see { argument with intent } = see argument)
    (intents : List (String × String)) (arguments : List Argument) :
    (setIntents intents arguments).map see = arguments.map see := by
  induction intents generalizing arguments with
  | nil => rfl
  | cons first rest ih =>
    rw [setIntents, List.foldl_cons]
    exact (ih _).trans (map_setIntent blind first.2 first.1 arguments)

theorem map_bare_setIntent (intent name : String) (arguments : List Argument) :
    (setIntent intent name arguments).map bare = setIntent intent name (arguments.map bare) := by
  induction arguments with
  | nil => rfl
  | cons argument rest ih =>
    rw [setIntent, List.map_cons, setIntent, apply_ite (List.map bare), List.map_cons,
      List.map_cons, ih]
    rfl

theorem map_bare_setIntents (intents : List (String × String)) (arguments : List Argument) :
    (setIntents intents arguments).map bare = setIntents intents (arguments.map bare) := by
  induction intents generalizing arguments with
  | nil => rfl
  | cons first rest ih =>
    rw [setIntents, List.foldl_cons]
    exact (ih _).trans (by rw [map_bare_setIntent]; rfl)

@[simp]
theorem setIntents_nil (arguments : List Argument) : setIntents [] arguments = arguments :=
  rfl

theorem setIntents_append (front back : List (String × String)) (arguments : List Argument) :
    setIntents (front ++ back) arguments = setIntents back (setIntents front arguments) :=
  List.foldl_append

end Argument

/-! ## Signatures -/

/-- A name with dummy arguments. -/
structure Signature where
  token : Token
  arguments : List Argument

namespace Signature

/-- The tokens that a header lists. -/
def tokens (signature : Signature) : List Token :=
  signature.token :: signature.arguments.map (·.token)

/-- Set intents of the arguments. -/
def give (intents : List (String × String)) (signature : Signature) : Signature :=
  { signature with arguments := Argument.setIntents intents signature.arguments }

theorem tokens_give (intents : List (String × String)) (signature : Signature) :
    (signature.give intents).tokens = signature.tokens :=
  congrArg (signature.token :: ·) (Argument.map_setIntents (fun _ _ => rfl) intents _)

end Signature

/-- The name of a procedure with its dummy arguments. -/
def Procedure.signature (procedure : Procedure) : Signature :=
  ⟨procedure.token, procedure.arguments.map Argument.bare⟩

/-- Set intents of the arguments. -/
def Procedure.give (intents : List (String × String)) (procedure : Procedure) : Procedure :=
  { procedure with arguments := Argument.setIntents intents procedure.arguments }

/-- The signatures of procedures. -/
def Procedure.signatures (procedures : List Procedure) : Multiset Signature :=
  procedures.map signature

/-- The signatures of all procedures of program units. -/
def ProgramUnit.signatures (programUnits : List ProgramUnit) : Multiset Signature :=
  Procedure.signatures (programUnits.flatMap allProcedures)

/-- The signatures of a procedure and of all procedures inside, or of all procedures of a
program unit. -/
def ScopeNode.signatures : ScopeNode → Multiset Signature
  | programUnit node => Procedure.signatures node.allProcedures
  | procedure node => Procedure.signatures node.subtree

/-- The signatures of a scope and of the program units that started inside. -/
def Scope.signatures (scope : Scope) : Multiset Signature :=
  scope.node.signatures + ProgramUnit.signatures scope.nested

/-- The signatures that stand in some frames. -/
def Frames.signatures : List Frame → Multiset Signature
  | [] => 0
  | .scope scope :: rest => scope.signatures + signatures rest
  | .interface _ block :: rest =>
      Procedure.signatures (Procedure.forest block.bodies) + signatures rest
  | .derivedType _ _ :: rest => signatures rest
  | .construct _ _ :: rest => signatures rest

/-- The signatures of a source as far as it has been read. -/
def ScanState.signatures (state : ScanState) : Multiset Signature :=
  ProgramUnit.signatures state.units + Frames.signatures state.frames +
    Procedure.signatures (Procedure.forest state.external)

namespace Procedure

theorem signatures_append (front back : List Procedure) :
    signatures (front ++ back) = signatures front + signatures back := by
  rw [signatures, List.map_append, ← Multiset.coe_add]
  rfl

theorem signatures_subtree (procedure : Procedure) :
    signatures procedure.subtree = procedure.signature ::ₘ
      (signatures (forest procedure.children) +
        signatures (interfaceForest procedure.interfaces)) := by
  rw [subtree_eq, ← signatures_append]
  rfl

theorem signature_give (intents : List (String × String)) (procedure : Procedure) :
    (procedure.give intents).signature = procedure.signature.give intents :=
  congrArg (Signature.mk procedure.token) (Argument.map_bare_setIntents intents _)

/-- That interface blocks describe an argument does not show in a signature. -/
theorem signature_finish (procedure : Procedure) (endLine : Nat) :
    (procedure.finish endLine).signature = procedure.signature := by
  have marked (names : List String) (arguments : List Argument) :
      (names.foldl (fun found name => Argument.markProcedure name found) arguments).map
        Argument.bare = arguments.map Argument.bare := by
    induction names generalizing arguments with
    | nil => rfl
    | cons name rest ih => rw [List.foldl_cons, ih, Argument.map_bare_markProcedure]
  exact congrArg (Signature.mk procedure.token) (marked _ _)

end Procedure

theorem ProgramUnit.signatures_append (front back : List ProgramUnit) :
    signatures (front ++ back) = signatures front + signatures back := by
  rw [signatures, List.flatMap_append, Procedure.signatures_append]
  rfl

/-! ## Frames -/

namespace Frames

variable {frames : List Frame}

/-- What changes the innermost scope changes its signatures and no others. -/
theorem exists_signatures_mapScope {scope : Scope} (innermost : scope? frames = some scope) :
    ∃ others, ∀ f, signatures (mapScope f frames) = (f scope).signatures + others := by
  induction frames with
  | nil => contradiction
  | cons frame rest ih =>
    cases frame with
    | scope inner =>
      obtain rfl : inner = scope := Option.some.inj innermost
      exact ⟨signatures rest, fun f => rfl⟩
    | interface opener block =>
      obtain ⟨others, mapped⟩ := ih innermost
      refine ⟨Procedure.signatures (Procedure.forest block.bodies) + others, fun f => ?_⟩
      change Procedure.signatures _ + signatures (mapScope f rest) = _
      rw [mapped, add_left_comm]
    | derivedType _ _ => exact ih innermost
    | construct _ _ => exact ih innermost

/-- What leaves the innermost scope as it is leaves all frames as they are. -/
theorem mapScope_eq_self {f : Scope → Scope} {frames : List Frame}
    (same : ∀ scope ∈ scope? frames, f scope = scope) : mapScope f frames = frames := by
  induction frames with
  | nil => rfl
  | cons frame rest ih =>
    cases frame with
    | scope scope => exact congrArg (Frame.scope · :: rest) (same scope rfl)
    | interface opener block => exact congrArg (Frame.interface opener block :: ·) (ih same)
    | derivedType opener name => exact congrArg (Frame.derivedType opener name :: ·) (ih same)
    | construct opener kind => exact congrArg (Frame.construct opener kind :: ·) (ih same)

/-- Two changes of the innermost scope that leave the same signatures in it leave the
same signatures. -/
theorem signatures_mapScope_congr {f g : Scope → Scope}
    (same : ∀ scope ∈ scope? frames, (f scope).signatures = (g scope).signatures) :
    signatures (mapScope f frames) = signatures (mapScope g frames) := by
  cases innermost : scope? frames with
  | none => rw [mapScope_of_scope?_none _ f innermost, mapScope_of_scope?_none _ g innermost]
  | some scope =>
    obtain ⟨others, mapped⟩ := exists_signatures_mapScope innermost
    rw [mapped, mapped, same scope innermost]

theorem signatures_mapProgramUnit {f : ProgramUnit → ProgramUnit}
    (same : ∀ node, (f node).allProcedures = node.allProcedures) (frames : List Frame) :
    signatures (mapProgramUnit f frames) = signatures frames := by
  induction frames with
  | nil => rfl
  | cons frame rest ih =>
    cases frame with
    | scope scope =>
      obtain ⟨opener, node, inSpecification, nested⟩ := scope
      cases node with
      | programUnit node =>
        simp only [mapProgramUnit, signatures, Scope.signatures, ScopeNode.signatures, same]
      | procedure node => exact congrArg (Scope.signatures _ + ·) ih
    | interface opener block => exact congrArg (Procedure.signatures _ + ·) ih
    | derivedType _ _ => exact ih
    | construct _ _ => exact ih

end Frames

/-! ## Signatures are gathered from all scopes -/

/-- The signature of a procedure, whatever its place. -/
def ScopeNode.signed (_ : Home) : ScopeNode → Multiset Signature
  | programUnit _ => 0
  | procedure node => {node.signature}

/-- Neither what a procedure holds nor how it ends shows in its signature. -/
theorem ScopeNode.overlooks_signed : Overlooks signed where
  child _ node _ := by cases node <;> rfl
  block _ node _ := by cases node <;> rfl
  procedureEnd _ node endLine := congrArg ({·}) (node.signature_finish endLine)
  unitEnd _ _ _ := rfl
  visibility _ _ _ := rfl

theorem Procedure.signatures_eq (home : Home) (procedures : List Procedure) :
    signatures procedures = gathered ScopeNode.signed home procedures := by
  induction procedures with
  | nil => rfl
  | cons first rest ih =>
    rw [gathered, List.map_cons, List.sum_cons]
    exact congrArg ({first.signature} + ·) ih

theorem ProgramUnit.signatures_eq (programUnits : List ProgramUnit) :
    signatures programUnits = gatheredAll ScopeNode.signed programUnits := by
  induction programUnits with
  | nil => rfl
  | cons first rest ih =>
    rw [gatheredAll_cons, ← ih, ← List.singleton_append, signatures_append, gathered,
      ← Procedure.signatures_eq]
    exact congrArg (· + _) ((congrArg Procedure.signatures (List.append_nil _)).trans
      (zero_add _).symm)

theorem Frames.signatures_eq (frames : List Frame) :
    signatures frames = gathered ScopeNode.signed frames := by
  induction frames with
  | nil => rfl
  | cons frame rest ih =>
    cases frame with
    | scope scope =>
      rw [signatures, Scope.signatures, gathered, ih, ProgramUnit.signatures_eq]
      congr 2
      cases scope.node with
      | programUnit node =>
        exact (Procedure.signatures_eq _ _).trans (zero_add _).symm
      | procedure node => exact Procedure.signatures_eq _ _
    | interface opener block => rw [signatures, gathered, ih, ← Procedure.signatures_eq]
    | derivedType _ _ => exact ih
    | construct _ _ => exact ih

theorem ScanState.signatures_eq (state : ScanState) :
    state.signatures = state.gathered ScopeNode.signed := by
  rw [signatures, gathered, ProgramUnit.signatures_eq, Frames.signatures_eq,
    ← Procedure.signatures_eq]

/-- Closing a block adds no signature.  The bodies of an interface block in no scope are
lost. -/
theorem ScanState.signatures_closeTop_le (state : ScanState) (line : Nat) :
    (state.closeTop line).signatures ≤ state.signatures := by
  rw [signatures_eq, signatures_eq]
  exact state.gathered_closeTop_le ScopeNode.overlooks_signed line

end FortranStyle
