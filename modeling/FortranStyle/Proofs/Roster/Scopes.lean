import FortranStyle.Proofs.Nesting.Account
import FortranStyle.Proofs.Roster.Effect

/-!
# Specification parts

The specification part of a scope lasts from its start to the first statement that
ends it, and only statements whose innermost scope it is can do so.  A scope holds
the USE statements that were met in it before that.
-/

namespace FortranStyle

/-! ## Views -/

/-- What counts of an open scope for its USE statements. -/
structure ScopeView where
  opener : Token
  inSpecification : Bool
  uses : List Use

/-- The USE statements recorded in a program unit or procedure. -/
def ScopeNode.uses : ScopeNode → List Use
  | programUnit node => node.specification.uses
  | procedure node => node.specification.uses

theorem ScopeNode.Steady.uses_eq {node node' : ScopeNode} (steady : node.Steady node') :
    node'.uses = node.uses := by
  cases steady with
  | programUnit own_eq _ _ =>
    have uses_eq := congrArg (fun own : ProgramUnit => own.specification.uses) own_eq
    exact uses_eq
  | procedure own_eq _ _ =>
    have uses_eq := congrArg (fun own : Procedure => own.specification.uses) own_eq
    exact uses_eq

/-- What counts of a scope. -/
def Scope.view (scope : Scope) : ScopeView :=
  ⟨scope.opener, scope.inSpecification, scope.node.uses⟩

/-- What counts of a block, if it is a scope. -/
def Frame.view? : Frame → Option ScopeView
  | scope inner => some inner.view
  | _ => none

/-- End the specification part of a scope. -/
def ScopeView.finish (view : ScopeView) : ScopeView :=
  { view with inSpecification := false }

/-- Record a USE in a scope while its specification part lasts. -/
def ScopeView.addUse (found : Use) (view : ScopeView) : ScopeView :=
  if view.inSpecification then { view with uses := view.uses ++ [found] } else view

/-- Change the view of the innermost scope. -/
def ScopeView.mapFirst (f : ScopeView → ScopeView) : List ScopeView → List ScopeView
  | [] => []
  | view :: rest => f view :: rest

namespace ScopeView

theorem opener_addUse (found : Use) (view : ScopeView) :
    (view.addUse found).opener = view.opener := by
  unfold addUse
  split
  · rfl
  · rfl

theorem inSpecification_addUse (found : Use) (view : ScopeView) :
    (view.addUse found).inSpecification = view.inSpecification := by
  unfold addUse
  split
  · rfl
  · rfl

theorem map_opener_mapFirst {f : ScopeView → ScopeView}
    (same : ∀ view, (f view).opener = view.opener) (views : List ScopeView) :
    (mapFirst f views).map (·.opener) = views.map (·.opener) := by
  cases views with
  | nil => rfl
  | cons view rest => simp [mapFirst, same]

end ScopeView

namespace Frames

/-- The open scopes, the innermost one first. -/
def views (frames : List Frame) : List ScopeView :=
  frames.filterMap Frame.view?

variable (frames : List Frame)

theorem head?_views : (views frames).head? = (scope? frames).map Scope.view := by
  induction frames with
  | nil => rfl
  | cons frame rest ih =>
    cases frame with
    | scope scope => rfl
    | interface _ _ => exact ih
    | derivedType _ _ => exact ih
    | construct _ _ => exact ih

variable {frames} in
theorem view_mem_views {scope : Scope} (listed : Frame.scope scope ∈ frames) :
    scope.view ∈ views frames :=
  List.mem_filterMap.mpr ⟨_, listed, rfl⟩

variable {frames} in
theorem mem_of_scope? {scope : Scope}
    (innermost : scope? frames = some scope) : Frame.scope scope ∈ frames := by
  induction frames with
  | nil => contradiction
  | cons frame rest ih =>
    cases frame with
    | scope inner =>
      cases innermost
      exact List.mem_cons_self
    | interface _ _ => exact List.mem_cons_of_mem _ (ih innermost)
    | derivedType _ _ => exact List.mem_cons_of_mem _ (ih innermost)
    | construct _ _ => exact List.mem_cons_of_mem _ (ih innermost)

theorem views_of_map_eq {frames frames' : List Frame}
    (same : frames'.map Frame.view? = frames.map Frame.view?) : views frames' = views frames := by
  have listed := congrArg (List.filterMap id) same
  rwa [List.filterMap_map, List.filterMap_map] at listed

theorem views_mapScope {f : Scope → Scope} {g : ScopeView → ScopeView}
    (same : ∀ scope, (f scope).view = g scope.view) :
    views (mapScope f frames) = ScopeView.mapFirst g (views frames) := by
  induction frames with
  | nil => rfl
  | cons frame rest ih =>
    cases frame with
    | scope scope => exact congrArg (· :: views rest) (same scope)
    | interface _ _ => exact ih
    | derivedType _ _ => exact ih
    | construct _ _ => exact ih

theorem views_mapScope_same {f : Scope → Scope} (same : ∀ scope, (f scope).view = scope.view) :
    views (mapScope f frames) = views frames := by
  apply views_of_map_eq
  apply map_mapScope
  exact fun scope => congrArg some (same scope)

end Frames

namespace ScanState

/-- The open scopes, the innermost one first. -/
def views (state : ScanState) : List ScopeView :=
  Frames.views state.frames

variable (state : ScanState)

theorem views_addUnits (units : List ProgramUnit) :
    (state.addUnits units).views = state.views := by
  unfold addUnits
  split
  · exact Frames.views_mapScope_same state.frames fun _ => rfl
  · rfl

theorem views_addProcedure (procedure : Procedure) :
    (state.addProcedure procedure).views = state.views := by
  unfold addProcedure
  split
  · apply Frames.views_of_map_eq
    refine Frames.map_attach? ?_ (fun _ _ => rfl) ‹_›
    rintro ⟨opener, _ | _, inSpecification, nested⟩
    · rfl
    · rfl
  · rfl

/-- Closing a block leaves the scopes around it as they are. -/
theorem isSuffix_views_closeTop (endLine : Nat) :
    (state.closeTop endLine).views <:+ state.views := by
  obtain ⟨frames, units, external, topLevel, misplacedUses, errors, depths⟩ := state
  rcases frames with _ | ⟨frame, rest⟩
  · exact List.suffix_refl _
  cases frame with
  | scope scope =>
    obtain ⟨opener, node, inSpecification, nested⟩ := scope
    cases node with
    | programUnit node =>
      rw [closeTop, views_addUnits]
      exact List.suffix_cons _ _
    | procedure node =>
      rw [closeTop, views_addUnits, views_addProcedure]
      exact List.suffix_cons _ _
  | interface opener block =>
    have same : Frames.views (Frames.mapNode (·.addInterface block) rest) = Frames.views rest := by
      apply Frames.views_mapScope_same
      rintro ⟨opener, _ | _, inSpecification, nested⟩
      · rfl
      · rfl
    rw [closeTop, views, same]
    exact List.suffix_refl _
  | derivedType _ _ => exact List.suffix_refl _
  | construct _ _ => exact List.suffix_refl _

theorem isSuffix_views_close (closer : Statement.Closer) (first last : Token) :
    (state.close closer first last).views <:+ state.views := by
  refine close_of (P := fun after => after.views <:+ state.views) ?_ ?_ (List.suffix_refl _)
    closer first last
  · exact fun after line suffix => (after.isSuffix_views_closeTop line).trans suffix
  · exact fun _ _ _ suffix => suffix

/-! ## One statement -/

/-- The innermost scope is the one with an opening statement that starts with the
token. -/
def StandsIn (opener : Token) : Prop :=
  ∃ scope, Frames.scope? state.frames = some scope ∧ scope.opener = opener

/-- What a statement does to the open scopes. -/
inductive Turns (state : ScanState) (statement : List Token) : List ScopeView → Prop
  | leaves (keeps : ¬state.EndsSpecification statement) (noUse : state.use? statement = none)
      {views : List ScopeView} (suffix : views <:+ state.views) : Turns state statement views
  | ends (ends : state.EndsSpecification statement) (noUse : state.use? statement = none) :
      Turns state statement (ScopeView.mapFirst .finish state.views)
  | uses {found : Use} (isUse : state.use? statement = some found) :
      Turns state statement (ScopeView.mapFirst (.addUse found) state.views)
  | opens (keeps : ¬state.EndsSpecification statement) (noUse : state.use? statement = none)
      {first : Token} (starts : first ∈ statement) :
      Turns state statement (⟨first, true, []⟩ :: state.views)

theorem views_endSpecification :
    state.endSpecification.views = ScopeView.mapFirst .finish state.views :=
  Frames.views_mapScope state.frames fun _ => rfl

theorem views_addUse (found : Use) :
    (state.addUse found).views = ScopeView.mapFirst (.addUse found) state.views := by
  have head_eq := Frames.head?_views state.frames
  unfold addUse
  cases innermost : Frames.scope? state.frames with
  | none =>
    rw [innermost, Option.map_none, List.head?_eq_none_iff] at head_eq
    simp [views, head_eq, ScopeView.mapFirst]
  | some scope =>
    rw [innermost, Option.map_some] at head_eq
    obtain ⟨rest, views_eq⟩ := List.head?_eq_some_iff.mp head_eq
    replace views_eq : state.views = scope.view :: rest := views_eq
    have mapped : (state.mapNode (·.addUse found)).views =
        ScopeView.mapFirst (fun view => { view with uses := view.uses ++ [found] })
          state.views := by
      apply Frames.views_mapScope
      rintro ⟨opener, _ | _, inSpecification, nested⟩
      · rfl
      · rfl
    rw [Option.any_some]
    split
    · rename_i inside
      have lasts : scope.view.inSpecification = true := inside
      rw [mapped, views_eq, ScopeView.mapFirst, ScopeView.mapFirst, ScopeView.addUse, if_pos lasts]
    · rename_i ended
      have isOver : ¬scope.view.inSpecification = true := ended
      change state.views = _
      rw [views_eq, ScopeView.mapFirst, ScopeView.addUse, if_neg isOver]

variable {state} {statement : List Token}

theorem EndsSpecification.use?_eq_none (ends : state.EndsSpecification statement) :
    state.use? statement = none := by
  cases use_eq : state.use? statement with
  | none => rfl
  | some found => exact absurd ends (not_endsSpecification_of_use? use_eq)

theorem use?_eq_none_of_mark? {mark : Mark} (mark_eq : state.mark? statement = some mark) :
    state.use? statement = none := by
  cases use_eq : state.use? statement with
  | none => rfl
  | some found =>
    rw [mark?_of_use? use_eq] at mark_eq
    contradiction

/-- A statement that closes a block, or opens one that is no construct, does not end
the specification part. -/
theorem not_endsSpecification_of_mark? {mark : Mark} (mark_eq : state.mark? statement = some mark)
    (other : ∀ opener kind name, mark = .opens ⟨opener, .construct kind, name⟩ →
      kind = .enumeration) : ¬state.EndsSpecification statement := by
  intro ends
  rcases ends.mark? with noMark | ⟨opener, kind, name, opens, executable⟩
  · rw [mark_eq] at noMark
    contradiction
  · rw [mark_eq] at opens
    exact executable (other opener kind name (Option.some.inj opens))

theorem Steady.views_eq {after : ScanState} (steady : state.Steady after) :
    after.views = state.views := by
  refine Frames.views_of_map_eq (Frames.map_of_steady ?_ steady.frames)
  intro frame frame' steady
  cases steady with
  | scope opener steady inSpecification nested =>
    rw [Frame.view?, Frame.view?, Scope.view, Scope.view, steady.uses_eq]
  | interface _ _ => rfl
  | derivedType _ _ => rfl
  | construct _ _ => rfl

/-- What a statement does to the views of the open scopes. -/
theorem turns_step (state : ScanState) (statement : List Token) :
    state.Turns statement (state.step statement).views := by
  obtain ⟨base, effect, steady⟩ := state.exists_effect statement
  rw [steady.views_eq]
  have leaves {mark : Mark} {views : List ScopeView} (mark_eq : state.mark? statement = some mark)
      (other : ∀ opener kind name, mark = .opens ⟨opener, .construct kind, name⟩ →
        kind = .enumeration) (suffix : views <:+ state.views) : state.Turns statement views :=
    .leaves (not_endsSpecification_of_mark? mark_eq other) (use?_eq_none_of_mark? mark_eq) suffix
  cases effect with
  | stays noMark keeps noUse => exact .leaves keeps noUse (List.suffix_refl _)
  | ends noMark ends =>
    rw [views_endSpecification]
    exact .ends ends ends.use?_eq_none
  | uses isUse =>
    rw [views_addUse]
    exact .uses isUse
  | closes mark_eq last => exact leaves mark_eq (by simp) (state.isSuffix_views_close _ _ last)
  | opensUnit mark_eq heading =>
    exact .opens (not_endsSpecification_of_mark? mark_eq (by simp))
      (use?_eq_none_of_mark? mark_eq) (opener_mem_of_mark? _ mark_eq)
  | opensProcedure mark_eq heading =>
    exact .opens (not_endsSpecification_of_mark? mark_eq (by simp))
      (use?_eq_none_of_mark? mark_eq) (opener_mem_of_mark? _ mark_eq)
  | opensInterface mark_eq empty => exact leaves mark_eq (by simp) (List.suffix_refl _)
  | opensType mark_eq => exact leaves mark_eq (by simp) (List.suffix_refl _)
  | opensEnumeration mark_eq => exact leaves mark_eq (by simp) (List.suffix_refl _)
  | opensConstruct mark_eq executable =>
    have ends : state.EndsSpecification statement := .construct mark_eq executable
    have turn := Turns.ends ends ends.use?_eq_none
    rw [← views_endSpecification] at turn
    exact turn

/-! ## Earlier statements -/

/-- Among some statements is one in a scope that ends its specification part. -/
def Ended (statements : List (List Token)) (opener : Token) : Prop :=
  ∃ before statement after, statements = before ++ statement :: after ∧
    (initial.run before).StandsIn opener ∧ (initial.run before).EndsSpecification statement

/-- The USE that a statement is, when it stands in a scope whose specification part
lasts. -/
def useIn? (state : ScanState) (opener : Token) (statement : List Token) : Option Use :=
  if (Frames.scope? state.frames).any fun scope =>
      scope.opener == opener && scope.inSpecification then
    state.use? statement
  else
    none

/-- The USE statements in a scope while its specification part lasts. -/
def usesIn (state : ScanState) (opener : Token) : List (List Token) → List Use
  | [] => []
  | statement :: rest =>
      (state.useIn? opener statement).toList ++ (state.step statement).usesIn opener rest

section Runs

variable {before : List (List Token)} {opener : Token}

theorem run_append_singleton (state : ScanState) (before : List (List Token))
    (statement : List Token) :
    state.run (before ++ [statement]) = (state.run before).step statement :=
  List.foldl_append

theorem ended_append_singleton :
    Ended (before ++ [statement]) opener ↔
      Ended before opener ∨
        (initial.run before).StandsIn opener ∧
          (initial.run before).EndsSpecification statement := by
  constructor
  · rintro ⟨front, found, back, statements_eq, inside, ends⟩
    rcases List.eq_nil_or_concat back with rfl | ⟨middle, last, rfl⟩
    · obtain ⟨rfl, same⟩ := List.append_inj' statements_eq rfl
      obtain rfl := List.singleton_inj.mp same
      exact .inr ⟨inside, ends⟩
    · rw [List.concat_eq_append, ← List.cons_append, ← List.append_assoc] at statements_eq
      obtain ⟨rfl, -⟩ := List.append_inj' statements_eq rfl
      exact .inl ⟨front, found, middle, rfl, inside, ends⟩
  · rintro (⟨front, found, back, rfl, inside, ends⟩ | ⟨inside, ends⟩)
    · exact ⟨front, found, back ++ [statement], by simp, inside, ends⟩
    · exact ⟨before, statement, [], rfl, inside, ends⟩

theorem usesIn_append_singleton (state : ScanState) (opener : Token)
    (before : List (List Token)) (statement : List Token) :
    state.usesIn opener (before ++ [statement]) =
      state.usesIn opener before ++ ((state.run before).useIn? opener statement).toList := by
  induction before generalizing state with
  | nil => simp [usesIn, run]
  | cons first rest ih =>
    rw [List.cons_append, usesIn, ih, usesIn, List.append_assoc]
    rfl

theorem standsIn_iff {state : ScanState} :
    state.StandsIn opener ↔ ∃ view ∈ state.views.head?, view.opener = opener := by
  rw [views, Frames.head?_views]
  simp [StandsIn, Scope.view]

/-- The opening tokens of open scopes stand in the statements, in order. -/
theorem sublist_openers_views (statements : List (List Token)) :
    ((initial.run statements).views.map (·.opener)).reverse.Sublist statements.flatten := by
  induction statements using List.reverseRecOn with
  | nil => exact .slnil
  | append_singleton before statement ih =>
    rw [run_append_singleton, List.flatten_append, List.flatten_singleton]
    have turn := (initial.run before).turns_step statement
    generalize ((initial.run before).step statement).views = views at turn ⊢
    cases turn with
    | leaves keeps noUse suffix =>
      refine List.Sublist.trans ?_ (ih.trans (List.sublist_append_left _ _))
      exact (suffix.sublist.map _).reverse
    | ends ends noUse =>
      rw [ScopeView.map_opener_mapFirst (f := ScopeView.finish) fun _ => rfl]
      exact ih.trans (List.sublist_append_left _ _)
    | uses isUse =>
      rw [ScopeView.map_opener_mapFirst (ScopeView.opener_addUse _)]
      exact ih.trans (List.sublist_append_left _ _)
    | opens keeps noUse starts =>
      rw [List.map_cons, List.reverse_cons]
      exact ih.append (List.singleton_sublist.mpr starts)

theorem opener_mem_of_standsIn (inside : (initial.run before).StandsIn opener) :
    opener ∈ before.flatten := by
  obtain ⟨view, head_eq, rfl⟩ := standsIn_iff.mp inside
  apply (sublist_openers_views before).subset
  rw [List.mem_reverse]
  exact List.mem_map_of_mem (List.mem_of_mem_head? head_eq)

theorem not_ended_of_not_mem (fresh : opener ∉ before.flatten) : ¬Ended before opener := by
  rintro ⟨front, statement, back, rfl, inside, -⟩
  apply fresh
  rw [List.flatten_append]
  exact List.mem_append_left _ (opener_mem_of_standsIn inside)

theorem useIn?_eq_none_of_not_standsIn {state : ScanState} (outside : ¬state.StandsIn opener)
    (statement : List Token) : state.useIn? opener statement = none := by
  rw [useIn?, if_neg]
  intro found
  obtain ⟨scope, innermost, holds⟩ := (Option.any_eq_true _ _).mp found
  exact outside ⟨scope, innermost, eq_of_beq (Bool.and_eq_true_iff.mp holds).1⟩

theorem useIn?_of_innermost {state : ScanState} {view : ScopeView}
    (innermost : view ∈ state.views.head?) :
    state.useIn? view.opener statement =
      if view.inSpecification then state.use? statement else none := by
  rw [views, Frames.head?_views, Option.mem_def, Option.map_eq_some_iff] at innermost
  obtain ⟨scope, scope_eq, rfl⟩ := innermost
  cases inside : scope.inSpecification with
  | true => simp [useIn?, scope_eq, Scope.view, inside]
  | false => simp [useIn?, scope_eq, Scope.view, inside]

theorem usesIn_eq_nil_of_not_mem (fresh : opener ∉ before.flatten) :
    initial.usesIn opener before = [] := by
  induction before using List.reverseRecOn with
  | nil => rfl
  | append_singleton before statement ih =>
    rw [List.flatten_append, List.mem_append, not_or] at fresh
    rw [usesIn_append_singleton, ih fresh.1, useIn?_eq_none_of_not_standsIn]
    · rfl
    · exact fun inside => fresh.1 (opener_mem_of_standsIn inside)

/-- What is true of an open scope: its specification part lasts until a statement in
it ends it, and it holds the USE statements met in it before that. -/
def Told (statements : List (List Token)) (view : ScopeView) : Prop :=
  (view.inSpecification = true ↔ ¬Ended statements view.opener) ∧
    view.uses = initial.usesIn view.opener statements

theorem Told.of_outside {view : ScopeView} (told : Told before view)
    (outside : ¬(initial.run before).StandsIn view.opener) (statement : List Token) :
    Told (before ++ [statement]) view := by
  obtain ⟨lasts, uses_eq⟩ := told
  constructor
  · rw [lasts, ended_append_singleton]
    simp [outside]
  · rw [uses_eq, usesIn_append_singleton, useIn?_eq_none_of_not_standsIn outside]
    simp

theorem Told.of_keeps {view : ScopeView} (told : Told before view)
    (keeps : ¬(initial.run before).EndsSpecification statement)
    (noUse : (initial.run before).use? statement = none) : Told (before ++ [statement]) view := by
  obtain ⟨lasts, uses_eq⟩ := told
  constructor
  · rw [lasts, ended_append_singleton]
    simp [keeps]
  · rw [uses_eq, usesIn_append_singleton, useIn?, noUse]
    simp

/-- A statement in the innermost scope changes what is true of no other. -/
theorem told_mapFirst {f : ScopeView → ScopeView}
    (openers : ((initial.run before).views.map (·.opener)).Nodup)
    (told : ∀ view ∈ (initial.run before).views, Told before view)
    (first : ∀ view ∈ (initial.run before).views.head?, Told before view →
      Told (before ++ [statement]) (f view)) :
    ∀ view ∈ ScopeView.mapFirst f (initial.run before).views,
      Told (before ++ [statement]) view := by
  have standsIn {opener : Token} (inside : (initial.run before).StandsIn opener) :=
    standsIn_iff.mp inside
  generalize (initial.run before).views = views at *
  cases views with
  | nil => exact fun view member => absurd member List.not_mem_nil
  | cons innermost rest =>
    intro view member
    rcases List.mem_cons.mp member with rfl | outer
    · exact first innermost rfl (told innermost List.mem_cons_self)
    · refine (told view (List.mem_cons_of_mem _ outer)).of_outside (fun inside => ?_) statement
      obtain ⟨found, found_eq, opener_eq⟩ := standsIn inside
      cases found_eq
      rw [List.map_cons, List.nodup_cons] at openers
      exact openers.1 (opener_eq ▸ List.mem_map_of_mem outer)

theorem told_run (statements : List (List Token)) (distinct : statements.flatten.Nodup) :
    ∀ view ∈ (initial.run statements).views, Told statements view := by
  induction statements using List.reverseRecOn with
  | nil => exact fun view member => absurd member List.not_mem_nil
  | append_singleton before statement ih =>
    rw [List.flatten_append, List.flatten_singleton] at distinct
    have told := ih distinct.of_append_left
    have openers : ((initial.run before).views.map (·.opener)).Nodup := by
      rw [← List.nodup_reverse]
      exact (sublist_openers_views before).nodup distinct.of_append_left
    rw [run_append_singleton]
    have turn := (initial.run before).turns_step statement
    generalize ((initial.run before).step statement).views = views at turn ⊢
    intro view member
    cases turn with
    | leaves keeps noUse suffix => exact (told view (suffix.subset member)).of_keeps keeps noUse
    | ends ends noUse =>
      refine told_mapFirst openers told (fun view innermost known => ?_) view member
      have inside := standsIn_iff.mpr ⟨view, innermost, rfl⟩
      constructor
      · simp [ScopeView.finish, ended_append_singleton, inside, ends]
      · simp [ScopeView.finish, usesIn_append_singleton, useIn?, noUse, known.2]
    | @uses found isUse =>
      refine told_mapFirst openers told (fun view innermost known => ?_) view member
      have keeps := not_endsSpecification_of_use? isUse
      constructor
      · rw [ScopeView.opener_addUse, ScopeView.inSpecification_addUse, known.1,
          ended_append_singleton]
        simp [keeps]
      · rw [ScopeView.opener_addUse, usesIn_append_singleton, ← known.2,
          useIn?_of_innermost innermost, isUse, ScopeView.addUse]
        cases view.inSpecification with
        | true => rfl
        | false => exact (List.append_nil _).symm
    | @opens keeps noUse first starts =>
      rcases List.mem_cons.mp member with rfl | earlier
      · have fresh : first ∉ before.flatten :=
          fun listed => (List.nodup_append.mp distinct).2.2 first listed first starts rfl
        refine Told.of_keeps ⟨?_, ?_⟩ keeps noUse
        · simp [not_ended_of_not_mem fresh]
        · exact (usesIn_eq_nil_of_not_mem fresh).symm
      · exact (told view earlier).of_keeps keeps noUse

theorem Ended.append {before : List (List Token)} {opener : Token} (isOver : Ended before opener)
    (after : List (List Token)) : Ended (before ++ after) opener := by
  obtain ⟨front, statement, back, rfl, inside, ends⟩ := isOver
  exact ⟨front, statement, back ++ after, by simp, inside, ends⟩

/-- A USE statement is the last one of the innermost scope while its specification part
lasts. -/
theorem exists_scope?_step {state : ScanState} {statement : List Token} {found : Use}
    {scope : Scope}
    (isUse : state.use? statement = some found)
    (innermost : Frames.scope? state.frames = some scope)
    (lasts : scope.inSpecification = true) :
    ∃ later, Frames.scope? (state.step statement).frames = some later ∧
      later.opener = scope.opener ∧ later.node.uses = scope.node.uses ++ [found] := by
  obtain ⟨rest, views_eq⟩ : ∃ rest, state.views = scope.view :: rest := by
    have head_eq := Frames.head?_views state.frames
    rw [innermost] at head_eq
    exact List.head?_eq_some_iff.mp head_eq
  have head_eq := Frames.head?_views (state.step statement).frames
  have turn := state.turns_step statement
  rw [← views] at head_eq
  generalize (state.step statement).views = after at head_eq turn
  cases turn with
  | leaves keeps noUse suffix =>
    rw [isUse] at noUse
    contradiction
  | ends ends noUse =>
    rw [isUse] at noUse
    contradiction
  | opens keeps noUse starts =>
    rw [isUse] at noUse
    contradiction
  | uses isUse' =>
    cases isUse.symm.trans isUse'
    rw [views_eq] at head_eq
    obtain ⟨later, later_eq, view_eq⟩ := Option.map_eq_some_iff.mp head_eq.symm
    have added : scope.view.addUse found =
        ⟨scope.opener, scope.inSpecification, scope.node.uses ++ [found]⟩ := if_pos lasts
    rw [added] at view_eq
    exact ⟨later, later_eq, congrArg ScopeView.opener view_eq, congrArg ScopeView.uses view_eq⟩

end Runs

end ScanState

end FortranStyle
