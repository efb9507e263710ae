import FortranStyle.Proofs.Locality.Gain
import FortranStyle.Proofs.Nesting.Account

/-!
# One statement and the program units

What a single statement does to the program units that have started: it may start
one more, and it may add to the one it stands in.
-/

namespace FortranStyle

open Statement (Introduces Enumerates)

/-! ## Recording names -/

namespace ProgramUnit

variable {P : String → Prop} (programUnit : ProgramUnit)

/-- Making a name public or private introduces at most that name. -/
theorem gains_grant (visibility : Option Visibility) {name : String} (token : Token)
    (granted : P (Text.lower name)) :
    programUnit.Gains P (programUnit.grant visibility name token) := by
  unfold grant
  match visibility with
  | none => exact .refl _
  | some .isPrivate =>
    dsimp only
    split
    · exact .refl _
    · exact ⟨rfl, .refl _⟩
  | some .isPublic =>
    dsimp only
    split
    · exact .refl _
    · refine ⟨rfl, ?_⟩
      simp only [ownNames, List.map_append, List.map_cons, List.map_nil]
      exact (Adds.refl _).append (.of_append (by simpa using granted) _)

theorem gains_declare (declaration : Declaration) (declared : P declaration.name)
    (granted : P (Text.lower declaration.name)) :
    programUnit.Gains P (programUnit.declare declaration) := by
  have first : programUnit.Gains P (if programUnit.isModule then
      programUnit.grant declaration.visibility declaration.name declaration.token
    else programUnit) := by
    split
    · exact programUnit.gains_grant _ _ granted
    · exact .refl _
  apply first.trans
  rw [declare]
  generalize (if programUnit.isModule then
    programUnit.grant declaration.visibility declaration.name declaration.token
    else programUnit) = granted
  have named (names : List String) : Adds P names (names ++ [declaration.name]) :=
    .of_append (by simpa using declared) names
  refine ⟨rfl, ?_⟩
  simp only [ownNames, Specification.names, List.map_append, List.map_cons, List.map_nil]
  exact ((((named _).append (.refl _)).append (.refl _)).append (.refl _)).append (.refl _)

theorem gains_recordAccess (visibility : Visibility) (word : Token) (rest : List Token)
    (listed : visibility = .isPublic →
      ∀ item ∈ Bracket.items rest, P (Text.lower (Statement.localName item))) :
    programUnit.Gains P (programUnit.recordAccess visibility word rest) := by
  unfold recordAccess
  split
  · exact ⟨rfl, .refl _⟩
  · generalize Bracket.items rest = items at listed
    induction items generalizing programUnit with
    | nil => exact .refl _
    | cons item items ih =>
      have more := fun isPublic item member =>
        listed isPublic item (List.mem_cons_of_mem _ member)
      rw [List.foldl_cons]
      refine Gains.trans ?_ (ih _ more)
      cases item with
      | nil => exact .refl _
      | cons token others =>
        cases visibility with
        | isPublic => exact programUnit.gains_grant _ _ (listed rfl _ List.mem_cons_self)
        | isPrivate =>
          simp only [grant]
          split
          · exact .refl _
          · exact ⟨rfl, .refl _⟩

end ProgramUnit

/-- Declarations add their names to the program unit they stand in, and nothing to
what shows of a procedure. -/
theorem ScopeNode.gains_declare {P : String → Prop} (constants : List String)
    {declarations : List Declaration}
    (declared : ∀ declaration ∈ declarations,
      P declaration.name ∧ P (Text.lower declaration.name)) (node : ScopeNode) :
    node.Gains P (declarations.foldl (ScopeNode.declare constants) node) := by
  induction declarations generalizing node with
  | nil => exact .refl node
  | cons declaration rest ih =>
    obtain ⟨own, granted⟩ := declared declaration List.mem_cons_self
    rw [List.foldl_cons]
    refine Gains.trans ?_
      (ih (fun other member => declared other (List.mem_cons_of_mem _ member)) _)
    cases node with
    | programUnit node => exact .programUnit (node.gains_declare declaration own granted)
    | procedure node => exact .procedure rfl

/-! ## Statements -/

namespace ScanState

/-- Whether a statement is an ENUMERATOR statement where these are read. -/
def IsEnumerating (state : ScanState) (tokens : List Token) : Prop :=
  state.frames.head?.map Frame.kind = some (.construct .enumeration) ∧
    tokens.head?.any (·.isWord "enumerator") = true

/-- How a statement may change a program unit that has started. -/
def Changes (state : ScanState) (tokens : List Token) (before after : ProgramUnit) : Prop :=
  ProgramUnit.Gained (Frames.InUnit state.frames) (Introduces tokens) before after ∨
    state.IsEnumerating tokens ∧
      ProgramUnit.Gained (Frames.UnderUnit state.frames) (Enumerates tokens) before after

/-- A statement may change program units that have started, and start one more. -/
def Advances (state : ScanState) (tokens : List Token) (after : ScanState) : Prop :=
  ∃ changed opened, after.held = changed ++ opened ∧
    List.Forall₂ (state.Changes tokens) state.held changed ∧
    (∀ programUnit ∈ opened, programUnit.ownNames = []) ∧
    (opened.map (·.token)).Sublist tokens

variable {state after : ScanState} {tokens : List Token}

theorem Advances.of_held_eq (held_eq : after.held = state.held) : state.Advances tokens after := by
  refine ⟨state.held, [], by rw [held_eq, List.append_nil], ?_, by simp, by simp⟩
  exact List.forall₂_same.mpr fun _ _ => .inl (.inl rfl)

/-- What the innermost scope gains comes after the program units that have ended. -/
theorem Advances.of_gained
    (gained : List.Forall₂ (ProgramUnit.Gained (Frames.InUnit state.frames) (Introduces tokens))
      (Frames.held state.frames [] []) (Frames.held after.frames [] []))
    (units_eq : after.units = state.units) : state.Advances tokens after := by
  refine ⟨after.held, [], by rw [List.append_nil], ?_, by simp, by simp⟩
  rw [held, held, units_eq]
  exact (List.rel_append (ProgramUnit.gained_same _) gained).imp fun _ _ => .inl

theorem advances_refl (state : ScanState) (tokens : List Token) : state.Advances tokens state :=
  .of_held_eq rfl

theorem advances_mapNode (state : ScanState) {f : ScopeNode → ScopeNode}
    (gains : ∀ node, ScopeNode.Gains (Introduces tokens) node (f node)) :
    state.Advances tokens (state.mapNode f) :=
  .of_gained (Frames.gained_mapNode state.frames gains [] []) rfl

theorem held_mapProcedure (state : ScanState) {f : Procedure → Procedure}
    (same : ∀ node, (f node).husk = node.husk) : (state.mapProcedure f).held = state.held :=
  congrArg (state.units.map (·.face []) ++ ·)
    (Frames.held_mapNode state.frames [] [] fun scope _ =>
      ScopeNode.sameFace_mapProcedure same scope.node)

theorem held_recordExecutable (state : ScanState) (tokens : List Token) :
    (state.recordExecutable tokens).held = state.held := by
  have ended : (state.mapFrames (Frames.mapScope fun scope =>
      { scope with inSpecification := false })).held = state.held :=
    congrArg (state.units.map (·.face []) ++ ·)
      (Frames.held_mapScope state.frames [] [] fun scope _ => ⟨.refl _, rfl⟩)
  unfold recordExecutable
  cases Statement.action? tokens with
  | none => exact ended
  | some action =>
    refine Eq.trans ?_ ended
    apply held_mapProcedure
    exact fun _ => rfl

theorem advances_recordPlain (state : ScanState) (tokens : List Token) :
    state.Advances tokens (state.recordPlain tokens) := by
  cases tokens with
  | nil => exact state.advances_refl _
  | cons first rest =>
    simp only [recordPlain]
    split_ifs with use implicit declares publishes hides intent saves external known
    · unfold recordUse
      split
      · exact state.advances_refl _
      · split
        · exact state.advances_mapNode (ScopeNode.gains_mapSpecification fun _ => rfl)
        · exact .of_held_eq rfl
    · unfold recordImplicit
      split
      · exact state.advances_mapNode (ScopeNode.gains_mapSpecification fun _ => rfl)
      · exact state.advances_refl _
    · exact state.advances_mapNode (ScopeNode.gains_declare _ fun declaration listed =>
        ⟨.declaration declares listed (.inl rfl), .declaration declares listed (.inr rfl)⟩)
    · apply state.advances_mapNode
      apply ScopeNode.gains_mapUnit
      intro node
      split
      · exact node.gains_recordAccess _ _ _ fun _ item listed =>
          .access rfl publishes listed rfl
      · exact .refl _
    · apply state.advances_mapNode
      apply ScopeNode.gains_mapUnit
      intro node
      split
      · exact node.gains_recordAccess _ _ _ fun hidden => by contradiction
      · exact .refl _
    · simp only [recordIntent]
      split
      · exact .of_held_eq (state.held_mapProcedure fun _ => rfl)
      · exact state.advances_refl _
    · exact state.advances_mapNode (ScopeNode.gains_mapSpecification fun _ => rfl)
    · exact .of_held_eq (state.held_mapProcedure fun _ => rfl)
    · exact state.advances_refl _
    · exact .of_held_eq (state.held_recordExecutable _)

theorem advances_recordContains (state : ScanState) (token : Token) :
    state.Advances tokens (state.recordContains token) := by
  unfold recordContains
  split
  · rename_i scope rest frames_eq
    let divide (node : ScopeNode) : ScopeNode :=
      node.mapUnit fun node => { node with containsLine := some token.line }
    have divided (node : ScopeNode) : node.Gains (Introduces tokens) (divide node) := by
      apply ScopeNode.gains_mapUnit
      exact fun _ => ⟨rfl, .refl _⟩
    have gained := Frames.gained_mapScope state.frames
      (f := fun scope => { scope with node := divide scope.node, inSpecification := false })
      (fun scope => ⟨divided scope.node, rfl⟩) [] []
    refine Advances.of_gained ?_ rfl
    rw [frames_eq] at gained ⊢
    exact gained
  · exact state.advances_refl _

theorem advances_recordMember (state : ScanState) (members : List Token) :
    state.Advances tokens (state.recordMember members) := by
  simp only [recordMember]
  split
  · rename_i opener block rest _ frames_eq
    split
    · refine Advances.of_gained ?_ rfl
      rw [frames_eq]
      have same : Adds (Introduces tokens) ([block].filterMap (·.name))
          ([block].filterMap (·.name)) := .refl _
      exact Frames.gained_open rest [] [] same
    · exact state.advances_refl _
  · exact state.advances_refl _

theorem advances_recordEnumerators (state : ScanState) (tokens : List Token)
    (enumerating : state.frames.head?.map Frame.kind = some (.construct .enumeration)) :
    state.Advances tokens (state.recordEnumerators tokens) := by
  unfold recordEnumerators
  split
  · rename_i starts
    refine ⟨_, [], (List.append_nil _).symm, ?_, by simp, by simp⟩
    have gained := Frames.gained_mapProgramUnit (P := Enumerates tokens) state.frames
      (f := fun node =>
        { node with
          enumerators := node.enumerators ++ (Statement.listedNames tokens).map (·.lower) })
      (fun node => ⟨rfl, ((Adds.refl _).append
        (.of_append (fun name listed => ⟨starts, listed⟩) _)).append (.refl _)⟩) [] []
    exact (List.rel_append (ProgramUnit.gained_same _) gained).imp fun _ _ changes =>
      .inr ⟨⟨enumerating, starts⟩, changes⟩
  · exact state.advances_refl _

/-! ## Statements that open a block -/

theorem token_mem_of_unitHeading? {heading : UnitKind × Token}
    (opens : Statement.unitHeading? tokens = some heading) : heading.2 ∈ tokens := by
  cases tokens with
  | nil => contradiction
  | cons first rest =>
    simp only [Statement.unitHeading?] at opens
    split_ifs at opens
    · cases opens
      cases rest with
      | nil => exact List.mem_cons_self
      | cons name more => exact List.mem_cons_of_mem _ List.mem_cons_self
    · split at opens
      · split at opens
        · cases opens
          exact List.mem_cons_of_mem _ List.mem_cons_self
        · contradiction
      · contradiction
    · obtain ⟨name, named, rfl⟩ := Option.map_eq_some_iff.mp opens
      exact List.mem_cons_of_mem _ (List.mem_of_mem_drop (List.mem_of_mem_head? named))

/-- A statement that opens a program unit starts it. -/
theorem advances_openUnit? (state : ScanState) (tokens : List Token) :
    ∀ after ∈ state.openUnit? tokens, state.Advances tokens after := by
  intro after opened
  cases tokens with
  | nil => contradiction
  | cons first rest =>
    obtain ⟨⟨kind, name⟩, heading, rfl⟩ := Option.map_eq_some_iff.mp opened
    have member := token_mem_of_unitHeading? heading
    refine ⟨state.held, [(ProgramUnit.begin kind name first.line).face []], ?_, ?_, ?_, ?_⟩
    · dsimp only
      split
      · exact (List.append_assoc ..).symm
      · exact (List.append_assoc ..).symm
    · exact List.forall₂_same.mpr fun _ _ => .inl (.inl rfl)
    · intro programUnit fresh
      rw [List.mem_singleton.mp fresh]
      rfl
    · exact List.singleton_sublist.mpr member

theorem advances_openProcedure? (state : ScanState) (tokens : List Token) :
    ∀ after ∈ state.openProcedure? tokens, state.Advances tokens after := by
  intro after opened
  cases tokens with
  | nil => contradiction
  | cons first rest =>
    obtain ⟨header, heading, rfl⟩ := Option.map_eq_some_iff.mp opened
    have gained (node : Procedure) : List.Forall₂
        (ProgramUnit.Gained (Frames.InUnit state.frames) (Introduces (first :: rest)))
        (Frames.held state.frames [] []) (Frames.held state.frames [node.husk] [] ++ []) := by
      rw [List.append_nil]
      exact Frames.gained_open state.frames _ _ (.refl _)
    dsimp only
    split
    · exact .of_gained (gained _) rfl
    · exact .of_gained (gained _) rfl

theorem advances_openInterface? (state : ScanState) (tokens : List Token) :
    ∀ after ∈ state.openInterface? tokens, state.Advances tokens after := by
  intro after opened
  obtain ⟨block, heading, rfl⟩ := Option.map_eq_some_iff.mp opened
  refine .of_gained (Frames.gained_open state.frames [] [] ?_) rfl
  intro name member
  obtain ⟨found, listed, name_eq⟩ := List.mem_filterMap.mp member
  rw [List.nil_append, List.mem_singleton] at listed
  subst listed
  exact .inr (.interface heading name_eq)

theorem advances_openType? (state : ScanState) (tokens : List Token) :
    ∀ after ∈ state.openType? tokens, state.Advances tokens after := by
  intro after opened
  cases tokens with
  | nil => contradiction
  | cons first rest =>
    obtain ⟨derivedType, heading, rfl⟩ := Option.map_eq_some_iff.mp opened
    have introduced : Introduces (first :: rest) (Text.lower derivedType.name) :=
      .derivedType heading rfl
    have listed (node : ProgramUnit) : node.Gains (Introduces (first :: rest))
        { node with derivedTypes := node.derivedTypes ++ [derivedType] } := by
      refine ⟨rfl, ?_⟩
      simp only [ProgramUnit.ownNames, List.map_append, List.map_cons, List.map_nil]
      exact ((((Adds.refl _).append (.of_append (by simpa using introduced) _)).append
        (.refl _)).append (.refl _)).append (.refl _)
    refine .of_gained (Frames.gained_mapNode state.frames ?_ [] []) rfl
    apply ScopeNode.gains_mapUnit
    exact fun node => (listed node).trans (ProgramUnit.gains_grant _ _ _ introduced)

theorem advances_openConstruct? (state : ScanState) (tokens : List Token) :
    ∀ after ∈ state.openConstruct? tokens, state.Advances tokens after := by
  intro after opened
  cases tokens with
  | nil => contradiction
  | cons first rest =>
    obtain ⟨kind, heading, rfl⟩ := Option.map_eq_some_iff.mp opened
    dsimp only
    split
    · exact .of_held_eq rfl
    · exact .of_held_eq (state.held_recordExecutable _)

theorem mem_orElse {α : Type} {first? second? : Option α} {found : α}
    (member : found ∈ (first? <|> second?)) : found ∈ first? ∨ found ∈ second? := by
  cases first? with
  | none => exact .inr member
  | some first => exact .inl member

theorem advances_getD {after? : Option ScanState} {plain : ScanState}
    (opens : ∀ after ∈ after?, state.Advances tokens after)
    (records : state.Advances tokens plain) : state.Advances tokens (after?.getD plain) := by
  cases after? with
  | none => exact records
  | some after => exact opens after rfl

theorem advances_recordInside (state : ScanState) (tokens : List Token) :
    state.Advances tokens (state.recordInside tokens) := by
  have opens : ∀ after ∈ (state.openUnit? tokens <|> state.openProcedure? tokens <|>
      state.openInterface? tokens <|> state.openType? tokens <|> state.openConstruct? tokens),
      state.Advances tokens after := by
    intro after opened
    rcases mem_orElse opened with opened | opened
    · exact state.advances_openUnit? tokens after opened
    rcases mem_orElse opened with opened | opened
    · exact state.advances_openProcedure? tokens after opened
    rcases mem_orElse opened with opened | opened
    · exact state.advances_openInterface? tokens after opened
    rcases mem_orElse opened with opened | opened
    · exact state.advances_openType? tokens after opened
    · exact state.advances_openConstruct? tokens after opened
  unfold recordInside
  split
  · exact state.advances_refl tokens
  · exact state.advances_recordEnumerators tokens ‹_›
  · exact advances_getD (state.advances_openProcedure? tokens) (state.advances_recordMember tokens)
  · exact advances_getD opens (state.advances_recordPlain tokens)

/-- A statement may start a program unit, and may add to the one it stands in. -/
theorem advances_step (state : ScanState) (statement : List Token) :
    state.Advances (Statement.unlabelled statement) (state.step statement) := by
  unfold step
  split
  · rename_i label others first rest unlabelled_eq
    rw [unlabelled_eq]
    dsimp only
    split
    · exact .of_held_eq (held_recordExecutable _ _)
    · split
      · exact .of_held_eq (state.held_close ..)
      · split
        · split
          · exact advances_recordContains (state.recordDepth label (state.depth - 1)) first
          · exact .of_held_eq rfl
        · exact advances_recordInside (state.recordDepth label state.depth) (first :: rest)
  · exact state.advances_refl _

end ScanState

end FortranStyle
