import FortranStyle.Proofs.Lists
import FortranStyle.Proofs.Nesting.WellNested
import FortranStyle.Proofs.Reading.Order
import FortranStyle.Proofs.Reading.StatementEnd

/-!
# Every open block is accounted for

No block of a source is left open or dropped in silence: each block that a scan
opens is popped once, by an END of its own or with one error at its opening
token, and there are no other errors than those about statements that do not fit
the open blocks.
-/

namespace FortranStyle

/-! ## Opening tokens -/

namespace Statement

theorem unlabelled_sublist (tokens : List Token) : (unlabelled tokens).Sublist tokens := by
  cases tokens with
  | nil => exact .slnil
  | cons label rest =>
    simp only [unlabelled]
    split
    · rename_i name colon first more tokens_eq
      have inside : (name :: colon :: first :: more).Sublist (label :: rest) := by
        rw [← tokens_eq]
        split
        · exact List.sublist_cons_self label rest
        · exact List.Sublist.refl _
      refine List.Sublist.trans ?_ inside
      split
      · exact (List.sublist_cons_self colon _).trans (List.sublist_cons_self name _)
      · exact List.Sublist.refl _
    · split
      · exact List.sublist_cons_self label rest
      · exact List.Sublist.refl _

theorem unlabelled_subset (tokens : List Token) : unlabelled tokens ⊆ tokens :=
  (unlabelled_sublist tokens).subset

theorem token_mem_of_interfaceHeading? {tokens : List Token} {block : Interface}
    (heading : interfaceHeading? tokens = some block) : block.token ∈ tokens := by
  have subset : (if tokens.head?.any (·.isWord "abstract") then tokens.drop 1 else tokens) ⊆
      tokens := by
    split
    · exact List.drop_subset 1 tokens
    · exact List.Subset.refl _
  simp only [interfaceHeading?] at heading
  split at heading
  · contradiction
  · rename_i token rest tokens_eq
    split at heading
    · cases heading
      apply subset
      rw [tokens_eq]
      exact List.mem_cons_self
    · contradiction

/-- An interface block starts without bodies. -/
theorem bodies_of_interfaceHeading? {tokens : List Token} {block : Interface}
    (heading : interfaceHeading? tokens = some block) : block.bodies = [] := by
  simp only [interfaceHeading?] at heading
  split at heading
  · contradiction
  · split at heading
    · cases heading
      rfl
    · contradiction

/-- The opening token of a block stands in the statement that opens it. -/
theorem opener_mem_of_opened? {innermost : Option BlockKind} {tokens : List Token}
    {block : OpenBlock} (opens : opened? innermost tokens = some block) :
    block.opener ∈ tokens := by
  cases tokens with
  | nil => contradiction
  | cons first rest =>
    have first_mem : first ∈ first :: rest := List.mem_cons_self
    simp only [opened?] at opens
    split at opens
    · contradiction
    · contradiction
    · obtain ⟨header, -, rfl⟩ := Option.map_eq_some_iff.mp opens
      exact first_mem
    · simp only [Option.orElse_eq_orElse, Option.orElse_eq_or, Option.or_eq_some_iff,
        Option.map_eq_some_iff] at opens
      rcases opens with ⟨_, _, rfl⟩ | ⟨-, ⟨_, _, rfl⟩ | ⟨-, ⟨_, heading, rfl⟩ | ⟨-, ⟨_, _, rfl⟩ |
        ⟨-, ⟨_, _, rfl⟩⟩⟩⟩⟩
      · exact first_mem
      · exact first_mem
      · exact token_mem_of_interfaceHeading? heading
      · exact first_mem
      · exact first_mem

end Statement

/-- The block that an opener opens. -/
def Mark.opened? : Mark → Option OpenBlock
  | opens block => some block
  | closes .. => none

theorem Mark.filterMap_opened?_events (blocks : List OpenBlock) (mark : Mark) :
    (mark.events blocks).filterMap Event.opened? = mark.opened?.toList := by
  cases mark with
  | opens block => cases nested : block.nested? blocks <;> simp only [events, nested] <;> rfl
  | closes closer token =>
    simp only [events]
    split
    · rfl
    · rename_i block _
      cases block.misnamed? closer.trailing <;> simp [Event.opened?, opened?, Function.comp_def]

/-- The opening tokens of the blocks that events open. -/
def Event.openers (events : List Event) : List Token :=
  (events.filterMap opened?).map (·.opener)

namespace ScanState

variable (state : ScanState)

theorem opener_mem_of_mark? {statement : List Token} {block : OpenBlock}
    (mark_eq : state.mark? statement = some (.opens block)) : block.opener ∈ statement := by
  apply Statement.unlabelled_subset
  simp only [mark?, Statement.mark?] at mark_eq
  split at mark_eq
  · contradiction
  · rename_i first rest unlabelled_eq
    rw [unlabelled_eq]
    split at mark_eq
    · contradiction
    · split at mark_eq
      · cases mark_eq
      · split at mark_eq
        · contradiction
        · obtain ⟨opened, opens, mark_eq⟩ := Option.map_eq_some_iff.mp mark_eq
          cases mark_eq
          exact Statement.opener_mem_of_opened? opens

/-- A statement opens one block at most, and its opening token stands in it. -/
theorem openers_turn (statement : List Token) :
    Event.openers (state.turn statement) = [] ∨
      ∃ token ∈ statement, Event.openers (state.turn statement) = [token] := by
  unfold turn
  cases mark_eq : state.mark? statement with
  | none => exact .inl rfl
  | some mark =>
    simp only [Option.map_some, Option.getD_some, Event.openers, mark.filterMap_opened?_events]
    cases mark with
    | opens block => exact .inr ⟨block.opener, state.opener_mem_of_mark? mark_eq, rfl⟩
    | closes closer token => exact .inl rfl

theorem openers_history_cons (statement : List Token) (rest : List (List Token)) :
    Event.openers (state.history (statement :: rest)) =
      Event.openers (state.turn statement) ++
        Event.openers ((state.step statement).history rest) := by
  simp [history, Event.openers]

theorem openers_history_nil : Event.openers (state.history []) = [] := by
  simp [history, Event.openers, Event.opened?, Function.comp_def]

theorem mem_flatten_of_mem_openers {statements : List (List Token)} {token : Token}
    (member : token ∈ Event.openers (state.history statements)) : token ∈ statements.flatten := by
  induction statements generalizing state with
  | nil =>
    rw [openers_history_nil] at member
    contradiction
  | cons statement rest ih =>
    rw [openers_history_cons, List.mem_append] at member
    rw [List.flatten_cons, List.mem_append]
    rcases member with now | later
    · rcases state.openers_turn statement with none_eq | ⟨opener, inside, opener_eq⟩
      · rw [none_eq] at now
        contradiction
      · rw [opener_eq, List.mem_singleton] at now
        exact .inl (now ▸ inside)
    · exact .inr (ih _ later)

/-- The opening tokens of a scan stand in the order of the tokens. -/
theorem pairwise_openers {R : Token → Token → Prop} {statements : List (List Token)}
    (ordered : statements.flatten.Pairwise R) :
    (Event.openers (state.history statements)).Pairwise R := by
  induction statements generalizing state with
  | nil =>
    rw [openers_history_nil]
    exact List.Pairwise.nil
  | cons statement rest ih =>
    rw [List.flatten_cons, List.pairwise_append] at ordered
    obtain ⟨-, restOrdered, across⟩ := ordered
    rw [openers_history_cons]
    rcases state.openers_turn statement with none_eq | ⟨opener, inside, opener_eq⟩
    · rw [none_eq]
      exact ih _ restOrdered
    · rw [opener_eq, List.singleton_append, List.pairwise_cons]
      constructor
      · intro token member
        exact across opener inside token (mem_flatten_of_mem_openers _ member)
      · exact ih _ restOrdered

end ScanState

/-! ## Lawful ends -/

/-- A block may come to its end in some way: END closes blocks of its kind, and a
bare END program units and procedures; the END of a construct, interface or
derived type pops no program unit or procedure. -/
def Fate.Lawful (block : OpenBlock) : Fate → Prop
  | closed closer => block.isClosedBy closer.kind = true
  | notClosedBefore closer _ =>
      closer.kind.any (!·.isScope) = true → block.kind.isScope = false
  | neverClosed => True

theorem OpenBlock.not_isScope_of_mem_above {kind : Option BlockKind} {block : OpenBlock}
    {blocks : List OpenBlock} (member : block ∈ above kind blocks)
    (narrow : kind.any (!·.isScope) = true) : block.kind.isScope = false := by
  have seen : block ∈ inSight kind blocks := (List.takeWhile_prefix _).subset member
  rw [inSight, if_pos narrow] at seen
  simpa using List.mem_takeWhile_imp seen

theorem Mark.lawful_of_mem_events {blocks : List OpenBlock} {mark : Mark} {block : OpenBlock}
    {fate : Fate} (member : .popped block fate ∈ mark.events blocks) : fate.Lawful block := by
  cases mark with
  | opens opened => cases nested : opened.nested? blocks <;> simp [events, nested] at member
  | closes closer token =>
    simp only [events] at member
    split at member
    · simp at member
    · rename_i target found
      simp only [List.mem_append, List.mem_map, Event.popped.injEq, Option.mem_toList,
        Option.map_eq_some_iff, reduceCtorEq, and_false, exists_false, or_false,
        List.mem_singleton] at member
      rcases member with ⟨popped, isAbove, rfl, rfl⟩ | ⟨rfl, rfl⟩
      · exact OpenBlock.not_isScope_of_mem_above isAbove
      · exact (OpenBlock.eq_above_append_of_target? found).1

/-- Every block comes to a lawful end. -/
theorem ScanState.lawful_of_mem_history {state : ScanState} {statements : List (List Token)}
    {block : OpenBlock} {fate : Fate} (member : .popped block fate ∈ state.history statements) :
    fate.Lawful block := by
  induction statements generalizing state with
  | nil =>
    obtain ⟨_, -, popped_eq⟩ := List.mem_map.mp member
    cases popped_eq
    trivial
  | cons statement rest ih =>
    rw [history, List.mem_append] at member
    rcases member with now | later
    · unfold turn at now
      cases mark_eq : state.mark? statement with
      | none =>
        rw [mark_eq] at now
        contradiction
      | some mark =>
        rw [mark_eq] at now
        exact mark.lawful_of_mem_events now
    · exact ih later

/-! ## Errors about blocks that are left open -/

/-- Whether a cause is a block that is left open. -/
def StructuralCause.isLeftOpen : StructuralCause → Bool
  | notClosedBefore .. | neverClosed .. => true
  | _ => false

/-- The errors about a block left open at a token. -/
def leftOpenAt (errors : List StructuralError) (token : Token) : List StructuralError :=
  errors.filter fun error => error.cause.isLeftOpen && (error.line, error.column) == token.start

/-- The errors about blocks left open at a token belong to the blocks that it
opens. -/
theorem leftOpenAt_errors (events : List Event) (token : Token) :
    leftOpenAt (events.filterMap Event.error?) token =
      ((events.filterMap Event.popped?).filter (·.1.opener.start == token.start)).filterMap
        fun (block, fate) => fate.error? block := by
  rw [leftOpenAt, List.filter_filterMap, List.filterMap_filter, List.filterMap_filterMap]
  congr 1
  funext event
  rcases event with block | ⟨block, fate⟩ | misfit
  · rfl
  · rcases fate with closer | ⟨closer, line⟩ | _
    · simp [Event.error?, Event.popped?, Fate.error?]
    · simp [Event.error?, Event.popped?, Fate.error?, Option.filter, StructuralCause.isLeftOpen,
        Token.start]
    · simp [Event.error?, Event.popped?, Fate.error?, Option.filter, StructuralCause.isLeftOpen,
        Token.start]
  · cases misfit <;> rfl

/-- When all opening tokens stand at different places, the errors about blocks
left open at the opening token of a popped block are those of its own end. -/
theorem leftOpenAt_of_popped {events : List Event} (leads : Event.Leads [] events [])
    (distinct : ((Event.openers events).map Token.start).Nodup) {block : OpenBlock} {fate : Fate}
    (member : .popped block fate ∈ events) :
    leftOpenAt (events.filterMap Event.error?) block.opener = (fate.error? block).toList := by
  have places : ((events.filterMap Event.popped?).map (·.1.opener.start)).Nodup := by
    have perm := leads.perm.map (·.opener.start)
    rw [List.nil_append, List.append_nil, List.map_map] at perm
    apply perm.nodup_iff.mp
    rwa [Event.openers, List.map_map] at distinct
  have popped : (block, fate) ∈ events.filterMap Event.popped? :=
    List.mem_filterMap.mpr ⟨_, member, rfl⟩
  rw [leftOpenAt_errors, filter_key_eq_singleton (fun popped => popped.1.opener.start) places
    popped]
  cases error_eq : fate.error? block <;> simp [error_eq]

/-! ## Counting errors -/

namespace Event

/-- A block ends without an END of its own. -/
def isUnclosed : Event → Bool
  | popped _ (.closed _) => false
  | popped .. => true
  | _ => false

/-- An END statement closes nothing. -/
def isUnmatched : Event → Bool
  | reported (.unmatched ..) => true
  | _ => false

/-- The name behind END is not that of the block. -/
def isMisnamed : Event → Bool
  | reported (.misnamed ..) => true
  | _ => false

/-- A program unit starts inside another scope. -/
def isNested : Event → Bool
  | reported (.nested ..) => true
  | _ => false

theorem length_errors (events : List Event) :
    (events.filterMap error?).length =
      events.countP isUnclosed + events.countP isUnmatched + events.countP isMisnamed +
        events.countP isNested := by
  induction events with
  | nil => rfl
  | cons event rest ih =>
    rw [List.filterMap_cons]
    rcases event with block | ⟨block, _ | _ | _⟩ | (_ | _ | _) <;>
      simp [error?, Fate.error?, isUnclosed, isUnmatched, isMisnamed, isNested, List.countP_cons,
        ih] <;> omega

end Event

/-! ## A closing statement that closes nothing -/

namespace ScanState

variable (state : ScanState)

/-- A statement that is read as a closer is carried out as one. -/
theorem step_of_closes {statement : List Token} {closer : Statement.Closer} {token : Token}
    (mark_eq : state.mark? statement = some (.closes closer token)) :
    ∃ last label depth,
      state.step statement = (state.close closer token last).recordDepth label depth := by
  simp only [mark?, Statement.mark?] at mark_eq
  split at mark_eq
  · contradiction
  · rename_i first rest unlabelled_eq
    cases statement with
    | nil => contradiction
    | cons label others =>
      split at mark_eq
      · contradiction
      · rename_i noTarget
        split at mark_eq
        · rename_i found closer_eq
          cases mark_eq
          refine ⟨rest.getLastD token, label,
            (state.close closer token (rest.getLastD token)).depth, ?_⟩
          simp only [step, unlabelled_eq, closer_eq]
          rw [if_neg noTarget]
        · split at mark_eq
          · contradiction
          · obtain ⟨_, _, mark_eq⟩ := Option.map_eq_some_iff.mp mark_eq
            contradiction

/-- An END statement that matches no open block changes no frame and records one
error. -/
theorem step_of_unmatched {statement : List Token} {closer : Statement.Closer} {token : Token}
    (mark_eq : state.mark? statement = some (.closes closer token))
    (none_eq : OpenBlock.target? closer.kind state.blocks = none) :
    (state.step statement).frames = state.frames ∧
      (state.step statement).errors =
        state.errors ++ [⟨.unmatchedEnd closer.kind, token.line, token.column⟩] := by
  obtain ⟨last, label, depth, step_eq⟩ := state.step_of_closes mark_eq
  have reach_eq := Frames.reach?_eq closer.kind state.frames
  rw [← blocks, none_eq] at reach_eq
  have close_eq : state.close closer token last =
      state.report (.unmatchedEnd closer.kind) token := by
    simp only [close, reach_eq, Option.map_none]
  rw [step_eq, close_eq]
  exact ⟨rfl, rfl⟩

end ScanState

/-! ## The account of a source -/

theorem Outline.errors_ofStatements (lineCount : Nat) (statements : List (List Token)) :
    (ofStatements lineCount statements).errors =
      (ScanState.initial.history statements).filterMap Event.error? := by
  have follows := ScanState.initial.follows_run statements (max lineCount 1)
  exact follows.errors.trans (List.nil_append _)

namespace Tokenized

/-- What happens to the open blocks while a source is scanned. -/
def history (source : Tokenized) : List Event :=
  ScanState.initial.history source.statements

/-- The openers and closers of a source. -/
def marks (source : Tokenized) : List Mark :=
  ScanState.initial.marks source.statements

/-- The account of the blocks and the errors of a source and its outline. -/
structure Accounted (source : Tokenized) (outline : Outline) : Prop where
  /-- Each statement pushes and pops frames as its events say, and adds their
  errors. -/
  step : ∀ before statement after, source.statements = before ++ statement :: after →
    let state := ScanState.initial.run before
    state.Follows (state.turn statement) (state.step statement)
  /-- The errors are those of the events. -/
  errors : outline.errors = source.history.filterMap Event.error?
  /-- Only the innermost block is ever popped, and none is left at the end. -/
  leads : Event.Leads [] source.history []
  /-- Every block that is opened is popped exactly once. -/
  once : ∀ block, .opened block ∈ source.history →
    ((source.history.filterMap Event.popped?).map Prod.fst).count block = 1
  /-- A block that an END statement closes is of the kind that END names, or a
  program unit or procedure, and no error says that it is left open. -/
  closed : ∀ block closer, .popped block (.closed closer) ∈ source.history →
    (closer.kind = some block.kind ∨ closer.kind = none ∧ block.kind.isScope = true) ∧
      leftOpenAt outline.errors block.opener = []
  /-- Exactly one error, at its opening token and about its kind, says that any
  other block is left open. -/
  unclosed : ∀ block fate, .popped block fate ∈ source.history →
    (∀ closer, fate ≠ .closed closer) →
      ∃ error, leftOpenAt outline.errors block.opener = [error] ∧
        error.cause.block? = some block.kind
  /-- An END statement that matches no open block changes no frame and records
  one error. -/
  unmatched : ∀ before statement after closer token,
    source.statements = before ++ statement :: after →
    let state := ScanState.initial.run before
    state.mark? statement = some (.closes closer token) →
    OpenBlock.target? closer.kind state.blocks = none →
      (state.step statement).frames = state.frames ∧
        (state.step statement).errors =
          state.errors ++ [⟨.unmatchedEnd closer.kind, token.line, token.column⟩]
  /-- The END of a construct, interface or derived type pops no program unit or
  procedure. -/
  barrier : ∀ block closer kind line, closer.kind = some kind → kind.isScope = false →
    .popped block (.closed closer) ∈ source.history ∨
      .popped block (.notClosedBefore closer line) ∈ source.history →
    block.kind.isScope = false
  /-- There are no other errors than those about blocks left open and about
  statements that do not fit. -/
  count : outline.errors.length =
    source.history.countP Event.isUnclosed + source.history.countP Event.isUnmatched +
      source.history.countP Event.isMisnamed + source.history.countP Event.isNested
  /-- The outline is complete exactly when openers and closers are properly
  nested. -/
  nested : outline.isPartial = false ↔ WellNested false source.marks

theorem leads_history (source : Tokenized) : Event.Leads [] source.history [] :=
  ScanState.leads_history .initial source.statements

theorem errors_ofTokenized (source : Tokenized) :
    (Outline.ofTokenized source).errors = source.history.filterMap Event.error? :=
  Outline.errors_ofStatements source.lines.length source.statements

/-- The tokens of a source stand at different places. -/
theorem pairwise_start_ne (lines : List String) :
    (ofLines lines).statements.flatten.Pairwise fun first second =>
      first.start ≠ second.start := by
  obtain ⟨ordered, upright⟩ := pairwise_precedes lines
  rw [statements, flatten_statementsOf]
  apply ordered.imp_of_mem
  intro first second firstMem _ precedes same
  obtain ⟨member, code⟩ := List.mem_filter.mp firstMem
  have behind := upright first member code
  unfold Token.Precedes at precedes
  rw [← same] at precedes
  unfold Before NotBehind at *
  omega

/-- The opening tokens of a source stand at different places. -/
theorem nodup_openers (lines : List String) :
    ((Event.openers (ofLines lines).history).map Token.start).Nodup :=
  List.pairwise_map.mpr (ScanState.initial.pairwise_openers (pairwise_start_ne lines))

/-- Every block and every error of a source is accounted for. -/
theorem accounted (lines : List String) :
    Accounted (ofLines lines) (Outline.ofTokenized (ofLines lines)) := by
  generalize source_eq : ofLines lines = source
  have distinct : ((Event.openers source.history).map Token.start).Nodup :=
    source_eq ▸ nodup_openers lines
  have errors_eq := errors_ofTokenized source
  have leads := source.leads_history
  constructor
  case step =>
    intro before statement after _
    exact (ScanState.initial.run before).follows_step statement
  case errors => exact errors_eq
  case leads => exact leads
  case once =>
    intro block opened
    have perm := leads.perm
    rw [List.nil_append, List.append_nil] at perm
    rw [← perm.count_eq]
    apply List.nodup_iff_count_eq_one.mp
    · rw [Event.openers, List.map_map] at distinct
      exact distinct.of_map
    · exact List.mem_filterMap.mpr ⟨_, opened, rfl⟩
  case closed =>
    intro block closer popped
    rw [errors_eq, leftOpenAt_of_popped leads distinct popped]
    exact ⟨OpenBlock.isClosedBy_iff.mp (ScanState.lawful_of_mem_history popped), rfl⟩
  case unclosed =>
    intro block fate popped notClosed
    rw [errors_eq, leftOpenAt_of_popped leads distinct popped]
    cases fate with
    | closed closer => exact absurd rfl (notClosed closer)
    | notClosedBefore closer line => exact ⟨_, rfl, rfl⟩
    | neverClosed => exact ⟨_, rfl, rfl⟩
  case unmatched =>
    intro before statement after closer token _ state mark_eq none_eq
    exact state.step_of_unmatched mark_eq none_eq
  case barrier =>
    intro block closer kind line kind_eq noScope popped
    have narrow : closer.kind.any (!·.isScope) = true := by simp [kind_eq, noScope]
    rcases popped with closed | passed
    · exact OpenBlock.not_isScope_of_isClosedBy (ScanState.lawful_of_mem_history closed) narrow
    · exact ScanState.lawful_of_mem_history passed narrow
  case count => rw [errors_eq, Event.length_errors]
  case nested =>
    rw [Outline.isPartial, errors_eq, Bool.not_eq_false', List.isEmpty_iff]
    exact (ScanState.initial.errors_history_eq_nil_iff source.statements).trans
      Mark.accepts_nil_iff

end Tokenized

end FortranStyle
