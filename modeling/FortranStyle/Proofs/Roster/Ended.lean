import FortranStyle.Proofs.Roster.Effect

/-!
# Program units that have ended

A program unit learns the visibility of its procedures when it closes, from all that
has been recorded in it by then.  From that moment on it is out of reach: whatever
statements follow, and however the blocks around it come to their end, it stays as it
is and takes its place in the outline.
-/

namespace FortranStyle

/-- The visibility of every procedure is what the program unit says of its name. -/
def ProgramUnit.HasLastWord (programUnit : ProgramUnit) : Prop :=
  ∀ procedure ∈ programUnit.procedures,
    procedure.visibility = programUnit.visibilityOf procedure.name

theorem ProgramUnit.hasLastWord_finish (programUnit : ProgramUnit) (endLine : Nat) :
    (programUnit.finish endLine).HasLastWord := by
  intro procedure member
  obtain ⟨before, -, rfl⟩ := List.mem_map.mp member
  rfl

/-- The program units that have ended directly inside a block. -/
def Frame.nested : Frame → List ProgramUnit
  | scope inner => inner.nested
  | _ => []

namespace Frames

/-- The program units that have ended inside some frames, in order. -/
def ended : List Frame → List ProgramUnit
  | [] => []
  | .scope scope :: rest => ended rest ++ scope.nested
  | .interface _ _ :: rest => ended rest
  | .derivedType _ _ :: rest => ended rest
  | .construct _ _ :: rest => ended rest

/-- The program units that are open. -/
def openUnits : List Frame → List ProgramUnit
  | [] => []
  | .scope ⟨_, .programUnit node, _, _⟩ :: rest => node :: openUnits rest
  | _ :: rest => openUnits rest

variable (frames : List Frame)

theorem ended_eq : ended frames = (frames.map Frame.nested).reverse.flatten := by
  induction frames with
  | nil => rfl
  | cons frame rest ih => cases frame <;> simp [ended, Frame.nested, ih]

theorem ended_of_map_eq {frames frames' : List Frame}
    (same : frames'.map Frame.nested = frames.map Frame.nested) :
    ended frames' = ended frames := by
  rw [ended_eq, ended_eq, same]

theorem ended_of_scope?_none (outside : scope? frames = none) : ended frames = [] := by
  induction frames with
  | nil => rfl
  | cons frame rest ih =>
    cases frame with
    | scope scope => contradiction
    | interface _ _ => exact ih outside
    | derivedType _ _ => exact ih outside
    | construct _ _ => exact ih outside

theorem ended_mapScope {f : Scope → Scope} (nested_eq : ∀ scope, (f scope).nested = scope.nested) :
    ended (mapScope f frames) = ended frames :=
  ended_of_map_eq (map_mapScope (fun scope => nested_eq scope) frames)

theorem ended_addNested (units : List ProgramUnit) (inside : (scope? frames).isSome = true) :
    ended (mapScope (fun scope => { scope with nested := scope.nested ++ units }) frames) =
      ended frames ++ units := by
  induction frames with
  | nil => contradiction
  | cons frame rest ih =>
    cases frame with
    | scope scope => exact (List.append_assoc ..).symm
    | interface _ _ => exact ih inside
    | derivedType _ _ => exact ih inside
    | construct _ _ => exact ih inside

/-- The program units that have started in some frames are open or have ended. -/
theorem perm_tokens_held (bodies : List Procedure) (blocks : List Interface) :
    ((ended frames ++ openUnits frames).map (·.token)).Perm
      ((held frames bodies blocks).map (·.token)) := by
  rw [← Multiset.coe_eq_coe]
  induction frames generalizing bodies blocks with
  | nil => rfl
  | cons frame rest ih =>
    cases frame with
    | scope scope =>
      obtain ⟨opener, node, inSpecification, nested⟩ := scope
      have faces_eq : (nested.map (·.face [])).map (·.token) = nested.map (·.token) := by
        rw [List.map_map]
        rfl
      cases node with
      | programUnit node =>
        have token_eq : (node.face blocks).token = node.token := rfl
        simp only [held, ended, openUnits, List.map_append, List.map_cons, faces_eq, token_eq,
          ← Multiset.coe_add, ← Multiset.cons_coe, ← Multiset.singleton_add, ← ih]
        abel
      | procedure node =>
        simp only [held, ended, openUnits, List.map_append, faces_eq, ← Multiset.coe_add, ← ih]
        abel
    | interface _ _ => exact ih _ _
    | derivedType _ _ => exact ih _ _
    | construct _ _ => exact ih _ _

end Frames

namespace ScanState

/-- The program units that have ended, in order. -/
def ended (state : ScanState) : List ProgramUnit :=
  state.units ++ Frames.ended state.frames

variable (state : ScanState)

theorem ended_addUnits (units : List ProgramUnit) :
    (state.addUnits units).ended = state.ended ++ units := by
  unfold addUnits
  split
  · rename_i inside
    rw [ended, ended, mapFrames, Frames.ended_addNested _ _ inside, List.append_assoc]
  · rename_i outside
    have nothing :=
      Frames.ended_of_scope?_none state.frames (Option.not_isSome_iff_eq_none.mp outside)
    simp [ended, nothing]

theorem ended_addProcedure (procedure : Procedure) :
    (state.addProcedure procedure).ended = state.ended := by
  unfold addProcedure
  split
  · rename_i attached
    have nested_eq : List.map Frame.nested _ = state.frames.map Frame.nested :=
      Frames.map_attach? (fun _ => rfl) (fun _ _ => rfl) attached
    rw [ended, ended, Frames.ended_of_map_eq nested_eq]
  · rfl

/-- Closing a block alters no program unit that has ended, and adds at most one, which
has its last word. -/
theorem exists_ended_closeTop (endLine : Nat) :
    ∃ front back new, state.ended = front ++ back ∧
      (state.closeTop endLine).ended = front ++ new ++ back ∧
      ∀ programUnit ∈ new, programUnit.HasLastWord := by
  obtain ⟨frames, units, external, topLevel, misplacedUses, errors, depths⟩ := state
  have unaltered {after : ScanState} {listed : List ProgramUnit} (same : after.ended = listed) :
      ∃ front back new, listed = front ++ back ∧ after.ended = front ++ new ++ back ∧
        ∀ programUnit ∈ new, programUnit.HasLastWord :=
    ⟨listed, [], [], (List.append_nil _).symm, by simp [same], by simp⟩
  rcases frames with _ | ⟨frame, rest⟩
  · exact unaltered rfl
  cases frame with
  | scope scope =>
    obtain ⟨opener, node, inSpecification, nested⟩ := scope
    cases node with
    | programUnit node =>
      refine ⟨units ++ Frames.ended rest, nested, [node.finish endLine], ?_, ?_, ?_⟩
      · exact (List.append_assoc ..).symm
      · rw [closeTop, ended_addUnits, ended, List.append_assoc _ [_], List.singleton_append]
      · exact fun programUnit member =>
          List.mem_singleton.mp member ▸ node.hasLastWord_finish endLine
    | procedure node =>
      apply unaltered
      rw [closeTop, ended_addUnits, ended_addProcedure, ended, ended, List.append_assoc]
      rfl
  | interface opener block =>
    apply unaltered
    exact congrArg (units ++ ·) (Frames.ended_mapScope rest fun _ => rfl)
  | derivedType _ _ => exact unaltered rfl
  | construct _ _ => exact unaltered rfl

/-! ## Runs -/

/-- The program units that have ended are still there, and others that have ended
since have their last word. -/
structure Outlives (before after : ScanState) : Prop where
  sublist : before.ended.Sublist after.ended
  lastWord : ∀ programUnit ∈ after.ended, programUnit ∈ before.ended ∨ programUnit.HasLastWord

section Runs

variable {state} {before after : ScanState}

theorem Outlives.of_ended_eq (ended_eq : after.ended = before.ended) : before.Outlives after where
  sublist := ended_eq ▸ List.Sublist.refl _
  lastWord := fun _ member => .inl (ended_eq ▸ member)

theorem Outlives.trans {middle : ScanState} (front : before.Outlives middle)
    (back : middle.Outlives after) : before.Outlives after where
  sublist := front.sublist.trans back.sublist
  lastWord := fun programUnit member =>
    (back.lastWord programUnit member).elim (front.lastWord programUnit) .inr

theorem outlives_closeTop (state : ScanState) (endLine : Nat) :
    state.Outlives (state.closeTop endLine) := by
  obtain ⟨front, back, new, before_eq, after_eq, lastWord⟩ := state.exists_ended_closeTop endLine
  refine ⟨?_, fun programUnit member => ?_⟩
  · rw [before_eq, after_eq]
    exact (List.sublist_append_left front new).append (List.Sublist.refl back)
  · rw [after_eq] at member
    rw [before_eq]
    rcases List.mem_append.mp member with member | member
    · rcases List.mem_append.mp member with member | member
      · exact .inl (List.mem_append_left _ member)
      · exact .inr (lastWord programUnit member)
    · exact .inl (List.mem_append_right _ member)

theorem outlives_close (closer : Statement.Closer) (first last : Token) :
    state.Outlives (state.close closer first last) := by
  refine close_of (P := fun after => state.Outlives after) ?_ ?_ (.of_ended_eq rfl) closer first
    last
  · exact fun after line outlives => outlives.trans (after.outlives_closeTop line)
  · exact fun _ _ _ outlives => ⟨outlives.sublist, outlives.lastWord⟩

theorem outlives_closeAll (state : ScanState) (lastLine count : Nat) :
    state.Outlives (state.closeAll lastLine count) := by
  refine closeAll_of (P := fun after => state.Outlives after) ?_ ?_ (.of_ended_eq rfl) lastLine
    count
  · exact fun after line outlives => outlives.trans (after.outlives_closeTop line)
  · exact fun _ _ _ outlives => ⟨outlives.sublist, outlives.lastWord⟩

theorem Steady.ended_eq (steady : before.Steady after) : after.ended = before.ended := by
  have nested_eq (frame frame' : Frame) (steady : frame.Steady frame') :
      frame'.nested = frame.nested := by
    cases steady <;> rfl
  rw [ended, ended, steady.units_eq,
    Frames.ended_of_map_eq (Frames.map_of_steady nested_eq steady.frames)]

theorem ended_endSpecification (state : ScanState) : state.endSpecification.ended = state.ended :=
  congrArg (state.units ++ ·) (Frames.ended_mapScope state.frames fun _ => rfl)

theorem ended_push (state : ScanState) {frame : Frame} (empty : frame.nested = []) :
    (state.push frame).ended = state.ended := by
  simp [ended, push, Frames.ended_eq, empty]

theorem ended_addUse (state : ScanState) (found : Use) :
    (state.addUse found).ended = state.ended := by
  unfold addUse
  split
  · exact congrArg (state.units ++ ·) (Frames.ended_mapScope state.frames fun _ => rfl)
  · rfl

/-- No statement alters a program unit that has ended. -/
theorem outlives_step (state : ScanState) (statement : List Token) :
    state.Outlives (state.step statement) := by
  obtain ⟨base, effect, steady⟩ := state.exists_effect statement
  refine Outlives.trans ?_ (.of_ended_eq steady.ended_eq)
  cases effect with
  | stays => exact .of_ended_eq rfl
  | ends => exact .of_ended_eq state.ended_endSpecification
  | uses => exact .of_ended_eq (state.ended_addUse _)
  | closes => exact outlives_close ..
  | opensUnit => exact .of_ended_eq (state.ended_push rfl)
  | opensProcedure => exact .of_ended_eq (state.ended_push rfl)
  | opensInterface => exact .of_ended_eq (state.ended_push rfl)
  | opensType => exact .of_ended_eq (state.ended_push rfl)
  | opensEnumeration => exact .of_ended_eq (state.ended_push rfl)
  | opensConstruct =>
    exact .of_ended_eq ((state.endSpecification.ended_push rfl).trans state.ended_endSpecification)

theorem outlives_run (state : ScanState) (statements : List (List Token)) :
    state.Outlives (state.run statements) := by
  induction statements generalizing state with
  | nil => exact .of_ended_eq rfl
  | cons statement rest ih => exact (state.outlives_step statement).trans (ih _)

end Runs

end ScanState

/-! ## Outlines -/

/-- The program units that have ended before the source ends, and those that end with
it, are those of the outline. -/
theorem ScanState.outlives_ofStatements (lineCount : Nat) (before after : List (List Token)) :
    (initial.run before).ended.Sublist
        (Outline.ofStatements lineCount (before ++ after)).units ∧
      ∀ programUnit ∈ (Outline.ofStatements lineCount (before ++ after)).units,
        programUnit ∈ (initial.run before).ended ∨ programUnit.HasLastWord := by
  have run_eq : initial.run (before ++ after) = (initial.run before).run after :=
    List.foldl_append
  have outlives := (outlives_run (initial.run before) after).trans
    (outlives_closeAll _ (max lineCount 1) (initial.run (before ++ after)).depth)
  rw [← run_eq] at outlives
  have units_eq : (Outline.ofStatements lineCount (before ++ after)).units =
      ((initial.run (before ++ after)).closeAll (max lineCount 1)
        (initial.run (before ++ after)).depth).ended := by
    rw [ended, frames_closeAll]
    exact (List.append_nil _).symm
  rw [units_eq]
  exact ⟨outlives.sublist, outlives.lastWord⟩

/-- The visibility that an outline records is the last word of its program units, and
no statement reaches a program unit that has ended. -/
structure Outline.IsLastWord (outline : Outline) (statements : List (List Token)) : Prop where
  visibility : ∀ programUnit ∈ outline.units, ∀ procedure ∈ programUnit.procedures,
    procedure.visibility = programUnit.visibilityOf procedure.name
  distinct : (outline.units.map (·.token)).Nodup
  /-- A program unit that has started is open or has ended. -/
  accounted : ∀ before after, statements = before ++ after →
    let state := ScanState.initial.run before
    ((state.ended ++ Frames.openUnits state.frames).map (·.token)).Perm
      (state.held.map (·.token))
  /-- A program unit that has ended is in the outline as it is. -/
  unaltered : ∀ before after, statements = before ++ after →
    (ScanState.initial.run before).ended.Sublist outline.units

/-- In every source the recorded visibility is the last word of the program units,
however they come to their end. -/
theorem isLastWord_ofTokenized (lines : List String) :
    (Outline.ofTokenized (.ofLines lines)).IsLastWord (Tokenized.ofLines lines).statements where
  visibility := by
    intro programUnit listed
    have outlives := ScanState.outlives_ofStatements (Tokenized.ofLines lines).lines.length []
      (Tokenized.ofLines lines).statements
    exact (outlives.2 programUnit listed).elim (absurd · List.not_mem_nil) id
  distinct := Locality.nodup_tokens lines
  accounted := by
    intro before after _ state
    have frames := Frames.perm_tokens_held state.frames [] []
    have units_eq : (state.units.map (·.face [])).map (·.token) = state.units.map (·.token) := by
      rw [List.map_map]
      rfl
    have ended_eq : (state.ended ++ Frames.openUnits state.frames).map (·.token) =
        state.units.map (·.token) ++
          (Frames.ended state.frames ++ Frames.openUnits state.frames).map (·.token) := by
      rw [ScanState.ended, List.append_assoc, List.map_append]
    have held_eq : state.held.map (·.token) =
        state.units.map (·.token) ++ (Frames.held state.frames [] []).map (·.token) := by
      rw [ScanState.held, List.map_append, units_eq]
    rw [ended_eq, held_eq]
    exact frames.append_left _
  unaltered := by
    intro before after statements_eq
    have outlives := ScanState.outlives_ofStatements (Tokenized.ofLines lines).lines.length before
      after
    rw [← statements_eq] at outlives
    exact outlives.1

end FortranStyle
