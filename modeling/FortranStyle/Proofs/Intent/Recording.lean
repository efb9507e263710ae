import FortranStyle.Proofs.Intent.Signature
import FortranStyle.Proofs.Rendering.Clauses
import FortranStyle.Proofs.Roster.Steady

/-!
# What a statement does to signatures

A statement that opens a procedure adds its signature.  A type declaration and an INTENT
statement set intents of arguments of the innermost procedure.  No other statement adds
or changes a signature.
-/

namespace FortranStyle

open Statement (unlabelled assignmentTarget? closer? isDivider header? isDeclaration)

/-! ## The intents that a statement tells -/

/-- The intent that a declaration tells, with its name in small letters. -/
def Declaration.intents (declaration : Declaration) : List (String × String) :=
  (declaration.intent.map (declaration.name, ·)).toList

/-- The intents that a statement tells if it is recorded, each with a name in small
letters. -/
def Statement.intents : List Token → List (String × String)
  | [] => []
  | first :: rest =>
      if isDeclaration (first :: rest) then
        (typeDeclaration (first :: rest)).declarations.flatMap Declaration.intents
      else if first.isWord "intent" && rest.head?.any (·.isOp "(") then
        (listedNames (rest.drop (Bracket.partner rest))).map
          (·.lower, Attributes.intentOf (Bracket.inside rest))
      else
        []

/-- The signature of a procedure with a header: no intent has been told. -/
def Statement.Header.signature (header : Statement.Header) : Signature :=
  ⟨header.name, header.arguments.map (⟨·, none, false⟩)⟩

namespace ScanState

variable (state : ScanState)

/-- Whether a statement is recorded in the innermost scope: it is no assignment, it opens,
closes and divides nothing, and it stands directly in no derived type, enumeration or
interface block. -/
def records (statement : List Token) : Bool :=
  let tokens := unlabelled statement
  (assignmentTarget? tokens).isNone && (state.mark? statement).isNone &&
    !state.innermost.any (isDivider · tokens) && state.innermost.all (·.isOrdinary)

/-- The intents that a statement tells. -/
def intents (statement : List Token) : List (String × String) :=
  if state.records statement then Statement.intents (unlabelled statement) else []

/-- The signature of the procedure that a statement opens. -/
def signed (statement : List Token) : List Signature :=
  match state.mark? statement with
  | some (.opens ⟨_, .procedure _, _⟩) =>
      ((header? (unlabelled statement)).map (·.signature)).toList
  | _ => []

end ScanState

/-! ## Recording in a scope -/

namespace ScopeNode

/-- The dummy arguments of a procedure, whether they are procedures or not. -/
def arguments : ScopeNode → List Argument
  | programUnit _ => []
  | procedure node => node.arguments.map Argument.bare

/-- Only arguments show in a signature. -/
theorem Steady.signatures_eq {node node' : ScopeNode} (steady : node.Steady node')
    (same : node'.arguments = node.arguments) : node'.signatures = node.signatures := by
  cases steady with
  | programUnit _ procedures_eq interfaces_eq =>
    rw [signatures, ProgramUnit.allProcedures, procedures_eq, interfaces_eq]
    rfl
  | @procedure node node' own_eq children_eq interfaces_eq =>
    have token_eq := congrArg Procedure.token own_eq
    have signature_eq : node'.signature = node.signature := congrArg₂ Signature.mk token_eq same
    rw [signatures, signatures, Procedure.signatures_subtree, Procedure.signatures_subtree,
      signature_eq, children_eq, interfaces_eq]

theorem mapProcedure_give_nil (node : ScopeNode) : node.mapProcedure (·.give []) = node := by
  cases node with
  | programUnit node => rfl
  | procedure node =>
    cases node
    rfl

/-- Successive declarations set the intents that they tell. -/
theorem signatures_declare (constants : List String) (declarations : List Declaration)
    (node : ScopeNode) :
    (declarations.foldl (declare constants) node).signatures =
      (node.mapProcedure (·.give (declarations.flatMap Declaration.intents))).signatures := by
  have steady := steady_declare constants declarations node
  cases node with
  | programUnit node =>
    generalize declarations.foldl (declare constants) (.programUnit node) = after at steady ⊢
    refine steady.signatures_eq ?_
    cases steady with
    | programUnit => rfl
  | procedure node =>
    have told : (declarations.foldl (declare constants) (.procedure node)).arguments =
        Argument.setIntents (declarations.flatMap Declaration.intents)
          (node.arguments.map Argument.bare) := by
      clear steady
      induction declarations generalizing node with
      | nil => rfl
      | cons declaration rest ih =>
        have declared : (node.declare constants declaration).arguments.map Argument.bare =
            Argument.setIntents declaration.intents (node.arguments.map Argument.bare) := by
          simp only [Procedure.declare, apply_ite (List.map Argument.bare),
            Argument.map_bare_markProcedure, ite_self, Declaration.intents]
          cases declaration.intent with
          | none => rfl
          | some intent => exact Argument.map_bare_setIntent intent _ _
        rw [List.foldl_cons, List.flatMap_cons, Argument.setIntents_append, ← declared]
        exact ih _
    have given : (procedure node).Steady
        (.procedure (node.give (declarations.flatMap Declaration.intents))) :=
      .procedure rfl rfl rfl
    generalize declarations.foldl (declare constants) (.procedure node) = after at steady told ⊢
    cases steady with
    | procedure own_eq children_eq interfaces_eq =>
      have same : Steady (.procedure (node.give (declarations.flatMap Declaration.intents)))
          (.procedure _) := .procedure own_eq children_eq interfaces_eq
      exact same.signatures_eq (told.trans (Argument.map_bare_setIntents _ _).symm)

end ScopeNode

/-! ## Recording in a state -/

namespace ScanState

variable (state : ScanState)

theorem signatures_mapScope_congr {f g : Scope → Scope}
    (same : ∀ scope, (f scope).signatures = (g scope).signatures) :
    (state.mapFrames (Frames.mapScope f)).signatures =
      (state.mapFrames (Frames.mapScope g)).signatures := by
  rw [signatures, mapFrames, Frames.signatures_mapScope_congr fun scope _ => same scope]
  rfl

/-- Two changes of the innermost node that leave the same signatures in it leave the same
signatures. -/
theorem signatures_mapNode_congr {f g : ScopeNode → ScopeNode}
    (same : ∀ node, (f node).signatures = (g node).signatures) :
    (state.mapNode f).signatures = (state.mapNode g).signatures :=
  state.signatures_mapScope_congr fun scope => congrArg (· + _) (same scope.node)

theorem signatures_mapScope {f : Scope → Scope}
    (same : ∀ scope, (f scope).signatures = scope.signatures) :
    (state.mapFrames (Frames.mapScope f)).signatures = state.signatures := by
  rw [state.signatures_mapScope_congr (g := id) same, mapFrames,
    Frames.mapScope_eq_self (f := id) fun _ _ => rfl]

theorem signatures_mapNode {f : ScopeNode → ScopeNode}
    (same : ∀ node, (f node).signatures = node.signatures) :
    (state.mapNode f).signatures = state.signatures :=
  state.signatures_mapScope fun scope => congrArg (· + _) (same scope.node)

theorem signatures_mapUnit {f : ProgramUnit → ProgramUnit}
    (steady : ∀ node, (ScopeNode.programUnit node).Steady (.programUnit (f node))) :
    (state.mapNode (·.mapUnit f)).signatures = state.signatures := by
  apply state.signatures_mapNode
  intro node
  cases node with
  | programUnit node => exact (steady node).signatures_eq rfl
  | procedure node => rfl

theorem signatures_mapProcedure {f : Procedure → Procedure}
    (steady : ∀ node, (ScopeNode.procedure node).Steady (.procedure (f node)))
    (same : ∀ node, (f node).arguments.map Argument.bare = node.arguments.map Argument.bare) :
    (state.mapProcedure f).signatures = state.signatures := by
  apply state.signatures_mapNode
  intro node
  cases node with
  | programUnit node => rfl
  | procedure node => exact (steady node).signatures_eq (same node)

theorem signatures_mapSpecification {f : Specification → Specification} :
    (state.mapNode (·.mapSpecification f)).signatures = state.signatures := by
  apply state.signatures_mapNode
  intro node
  cases node with
  | programUnit node => rfl
  | procedure node =>
    simp only [ScopeNode.mapSpecification, ScopeNode.signatures, Procedure.signatures_subtree]
    rfl

theorem signatures_recordExecutable (tokens : List Token) :
    (state.recordExecutable tokens).signatures = state.signatures := by
  have ended := state.signatures_mapScope
    (f := fun scope => { scope with inSpecification := false }) fun _ => rfl
  unfold recordExecutable
  split
  · refine Eq.trans ?_ ended
    exact signatures_mapProcedure _ (fun _ => .procedure rfl rfl rfl) fun _ => rfl
  · exact ended

theorem signatures_recordContains (token : Token) :
    (state.recordContains token).signatures = state.signatures := by
  obtain ⟨frames, units, external, topLevel, misplacedUses, errors, depths⟩ := state
  rcases frames with _ | ⟨frame, rest⟩
  · rfl
  cases frame with
  | scope scope =>
    obtain ⟨opener, node, inSpecification, nested⟩ := scope
    cases node with
    | programUnit node => rfl
    | procedure node => rfl
  | interface _ _ => rfl
  | derivedType _ _ => rfl
  | construct _ _ => rfl

theorem signatures_recordMember (tokens : List Token) :
    (state.recordMember tokens).signatures = state.signatures := by
  simp only [recordMember]
  split
  · rename_i frames_eq
    split
    · rw [signatures, signatures, frames_eq]
      rfl
    · rfl
  · rfl

theorem signatures_recordEnumerators (tokens : List Token) :
    (state.recordEnumerators tokens).signatures = state.signatures := by
  unfold recordEnumerators
  split
  · rw [signatures, mapFrames, Frames.signatures_mapProgramUnit]
    · rfl
    · exact fun _ => rfl
  · rfl

theorem signatures_recordUse (tokens : List Token) :
    (state.recordUse tokens).signatures = state.signatures := by
  unfold recordUse
  split
  · rfl
  · split
    · exact state.signatures_mapSpecification
    · rfl

theorem signatures_recordImplicit (tokens : List Token) :
    (state.recordImplicit tokens).signatures = state.signatures := by
  unfold recordImplicit
  split
  · exact state.signatures_mapSpecification
  · rfl

theorem signatures_recordAccess (visibility : Visibility) (word : Token) (rest : List Token) :
    (state.recordAccess visibility word rest).signatures = state.signatures := by
  apply state.signatures_mapUnit
  intro node
  split
  · exact ScopeNode.steady_recordAccess _ _ _ node
  · exact .refl _

theorem signatures_recordExternal (tokens : List Token) :
    (state.recordExternal tokens).signatures = state.signatures := by
  refine state.signatures_mapProcedure (fun _ => .procedure rfl rfl rfl) fun node => ?_
  dsimp only
  generalize Statement.listedNames tokens = names, node.arguments = arguments
  induction names generalizing arguments with
  | nil => rfl
  | cons name rest ih => rw [List.foldl_cons, ih, Argument.map_bare_markProcedure]

/-- An INTENT statement sets the same intent of all arguments whose names it reaches. -/
theorem recordIntent_eq {first : Token} {rest : List Token}
    (bracket : rest.head?.any (·.isOp "(") = true) :
    state.recordIntent (first :: rest) =
      state.mapProcedure (·.give ((Statement.listedNames (rest.drop (Bracket.partner rest))).map
        (·.lower, Statement.Attributes.intentOf (Bracket.inside rest)))) := by
  simp only [recordIntent, List.drop_one, List.tail_cons, bracket, if_true]
  congr 1
  funext node
  rw [Procedure.give, Argument.setIntents, List.foldl_map]

/-- A plain statement sets the intents that it tells in the innermost procedure. -/
theorem signatures_recordPlain (tokens : List Token) :
    (state.recordPlain tokens).signatures =
      (state.mapProcedure (·.give (Statement.intents tokens))).signatures := by
  have nothing : (state.mapProcedure (·.give [])).signatures = state.signatures :=
    state.signatures_mapNode fun node => by rw [node.mapProcedure_give_nil]
  cases tokens with
  | nil => exact nothing.symm
  | cons first rest =>
  rw [Statement.intents]
  cases declares : isDeclaration (first :: rest) with
  | true =>
    have differs {word : String}
        (other : word ∉ Vocabulary.intrinsicTypes ++ ["type", "class", "procedure"]) :
        first.isWord word = false := by
      by_contra isWord
      have reads := Token.reads_of_isWord (eq_true_of_ne_false isWord)
      rw [List.mem_append, not_or] at other
      simp only [isDeclaration, reads.isAmong_eq, List.contains_eq_mem, other, decide_false,
        Bool.false_and, Bool.or_false] at declares
      contradiction
    have noUse : first.isWord "use" = false := differs (by decide)
    have noImplicit : first.isWord "implicit" = false := differs (by decide)
    simp only [recordPlain, noUse, noImplicit, declares, Bool.false_eq_true, if_false, if_true]
    exact state.signatures_mapNode_congr fun node => ScopeNode.signatures_declare _ _ node
  | false =>
  cases isIntent : first.isWord "intent" with
  | true =>
    have reads := Token.reads_of_isWord isIntent
    have plain_eq : state.recordPlain (first :: rest) = state.recordIntent (first :: rest) := by
      simp [recordPlain, reads.isWord_eq, declares]
    rw [plain_eq]
    cases bracket : rest.head?.any (·.isOp "(") with
    | true =>
      rw [recordIntent_eq state bracket]
      rfl
    | false =>
      have same : state.recordIntent (first :: rest) = state := by simp [recordIntent, bracket]
      rw [same]
      exact nothing.symm
  | false =>
    refine Eq.trans ?_ nothing.symm
    simp only [recordPlain, declares, isIntent, Bool.false_eq_true, if_false]
    split_ifs
    · exact state.signatures_recordUse _
    · exact state.signatures_recordImplicit _
    · exact state.signatures_recordAccess _ _ _
    · exact state.signatures_recordAccess _ _ _
    · exact state.signatures_mapSpecification
    · exact state.signatures_recordExternal _
    · rfl
    · exact state.signatures_recordExecutable _

/-! ## Opening blocks -/

theorem signatures_push (frame : Frame) :
    (state.push frame).signatures = Frames.signatures [frame] + state.signatures := by
  have cons_eq : Frames.signatures (frame :: state.frames) =
      Frames.signatures [frame] + Frames.signatures state.frames := by
    cases frame with
    | scope scope => simp [Frames.signatures]
    | interface opener block => simp [Frames.signatures]
    | derivedType _ _ => exact (zero_add _).symm
    | construct _ _ => exact (zero_add _).symm
  rw [signatures, push, cons_eq, signatures]
  abel

theorem signatures_begin (opener : Token) (header : Statement.Header) (line : Nat)
    (holder : Option Frame) :
    Frames.signatures [.scope ⟨opener, .procedure (.begin header line holder), true, []⟩] =
      {header.signature} := by
  have signature_eq : (Procedure.begin header line holder).signature = header.signature := by
    simp only [Procedure.signature, Procedure.begin, List.map_map]
    rfl
  have subtree_eq : Procedure.signatures (Procedure.begin header line holder).subtree =
      {header.signature} := by
    rw [Procedure.signatures_subtree, signature_eq]
    rfl
  rw [Frames.signatures, Scope.signatures, ScopeNode.signatures, subtree_eq]
  rfl

/-! Of the blocks that a statement may open, only a procedure adds a signature. -/

section Opens

variable {state after : ScanState} {tokens : List Token}

theorem signatures_openUnit? (opened : state.openUnit? tokens = some after) :
    after.signatures = state.signatures := by
  cases tokens with
  | nil => contradiction
  | cons first rest =>
    obtain ⟨⟨kind, name⟩, -, rfl⟩ := Option.map_eq_some_iff.mp opened
    rw [signatures_push]
    refine (zero_add _).trans ?_
    split <;> rfl

theorem signatures_openProcedure? {header : Statement.Header}
    (heading : Statement.header? tokens = some header)
    (opened : state.openProcedure? tokens = some after) :
    after.signatures = {header.signature} + state.signatures := by
  cases tokens with
  | nil => contradiction
  | cons first rest =>
    simp only [openProcedure?, heading, Option.map_some, Option.some.injEq] at opened
    rw [← opened, signatures_push, signatures_begin]
    split <;> rfl

theorem signatures_openInterface? (opened : state.openInterface? tokens = some after) :
    after.signatures = state.signatures := by
  obtain ⟨block, heading, rfl⟩ := Option.map_eq_some_iff.mp opened
  rw [signatures_push, Frames.signatures, Statement.bodies_of_interfaceHeading? heading]
  exact zero_add _

theorem signatures_openType? (opened : state.openType? tokens = some after) :
    after.signatures = state.signatures := by
  cases tokens with
  | nil => contradiction
  | cons first rest =>
    obtain ⟨derivedType, -, rfl⟩ := Option.map_eq_some_iff.mp opened
    rw [signatures_push, signatures_mapUnit]
    · exact zero_add _
    · intro node
      refine .trans ?_ (ScopeNode.steady_grant _ _ _ _)
      exact .programUnit rfl rfl rfl

theorem signatures_openConstruct? (opened : state.openConstruct? tokens = some after) :
    after.signatures = state.signatures := by
  cases tokens with
  | nil => contradiction
  | cons first rest =>
    obtain ⟨kind, -, rfl⟩ := Option.map_eq_some_iff.mp opened
    rw [signatures_push]
    refine (zero_add _).trans ?_
    split
    · rfl
    · exact signatures_recordExecutable _ _

end Opens

variable {state} {statement : List Token} {first : Token} {rest : List Token}

theorem intents_of_not_records (other : state.records statement = false) :
    state.intents statement = [] := by
  rw [intents, other]
  rfl

/-- A branch of a construct is not recorded. -/
theorem intents_of_isDivider (unlabelled_eq : unlabelled statement = first :: rest)
    (divides : state.innermost.any (Statement.isDivider · (first :: rest)) = true) :
    state.intents statement = [] :=
  intents_of_not_records (by simp [records, unlabelled_eq, divides])

/-- Nor is a statement in a block that holds no statements of its own. -/
theorem intents_of_innermost {kind : BlockKind} (inside : state.innermost = some kind)
    (special : kind.isOrdinary = false) : state.intents statement = [] :=
  intents_of_not_records (by simp [records, inside, special])

theorem intents_of_mark? {mark : Mark} (marked : state.mark? statement = some mark) :
    state.intents statement = [] :=
  intents_of_not_records (by simp [records, marked])

theorem signed_of_mark?_none (noMark : state.mark? statement = none) :
    state.signed statement = [] := by
  rw [signed, noMark]

/-- A statement that is recorded in the innermost scope does nothing else. -/
theorem step_of_records {label : Token} {others : List Token}
    (unlabelled_eq : unlabelled (label :: others) = first :: rest)
    (recorded : state.records (label :: others) = true) :
    state.step (label :: others) =
      (state.recordDepth label state.depth).recordPlain (first :: rest) := by
  have deed := deed_step state label others unlabelled_eq
  simp only [records, unlabelled_eq, Bool.and_eq_true, Option.isNone_iff_eq_none,
    Bool.not_eq_true'] at recorded
  obtain ⟨⟨⟨noTarget, noMark⟩, noDivider⟩, inside⟩ := recorded
  rw [noMark] at deed
  generalize state.step (label :: others) = after at deed ⊢
  cases deed with
  | executes target => simp [noTarget] at target
  | divides _ divides _ => simp [noDivider] at divides
  | contains _ divides _ => simp [noDivider] at divides
  | component _ within => simp [within, BlockKind.isOrdinary] at inside
  | enumerates _ within => simp [within, BlockKind.isOrdinary] at inside
  | member _ within => simp [within, BlockKind.isOrdinary] at inside
  | records => rfl

/-- A statement adds the signature of the procedure that it opens, and otherwise sets the
intents that it tells in the innermost procedure. -/
theorem signatures_step_le (state : ScanState) (statement : List Token) :
    (state.step statement).signatures ≤ ↑(state.signed statement) +
      (state.mapProcedure (·.give (state.intents statement))).signatures := by
  have nothing : (state.mapProcedure (·.give [])).signatures = state.signatures :=
    state.signatures_mapNode fun node => by rw [node.mapProcedure_give_nil]
  have same {after : ScanState} (quiet : state.intents statement = [])
      (same : after.signatures = state.signatures) : after.signatures ≤
        ↑(state.signed statement) +
          (state.mapProcedure (·.give (state.intents statement))).signatures := by
    rw [quiet, nothing, same]
    exact Multiset.le_add_left _ _
  cases unlabelled_eq : unlabelled statement with
  | nil =>
    have quiet : state.intents statement = [] := by
      rw [intents, unlabelled_eq]
      exact ite_self []
    rw [step_of_unlabelled_eq_nil unlabelled_eq]
    exact same quiet rfl
  | cons first rest =>
  cases statement with
  | nil => contradiction
  | cons label others =>
  have deed := deed_step state label others unlabelled_eq
  generalize mark_eq : state.mark? (label :: others) = mark,
    state.step (label :: others) = after at deed
  cases deed with
  | executes target =>
    have noRecord : state.records (label :: others) = false := by
      simp [records, unlabelled_eq, Option.isSome_iff_ne_none.mp target]
    exact same (intents_of_not_records noRecord) (signatures_recordExecutable _ _)
  | @closes closer noTarget closes depth =>
    rw [intents_of_mark? mark_eq, nothing]
    have closed : (state.close closer first (rest.getLastD first)).signatures ≤ state.signatures :=
      close_of (P := fun after => after.signatures ≤ state.signatures)
        (fun after line le => (after.signatures_closeTop_le line).trans le) (fun _ _ _ le => le)
        le_rfl closer first _
    exact closed.trans (Multiset.le_add_left _ _)
  | divides noTarget divides noContains =>
    exact same (intents_of_isDivider unlabelled_eq divides) rfl
  | contains noTarget divides isContains =>
    exact same (intents_of_isDivider unlabelled_eq divides) (signatures_recordContains _ _)
  | component stands inside =>
    exact same (intents_of_innermost inside rfl) rfl
  | enumerates stands inside =>
    exact same (intents_of_innermost inside rfl) (signatures_recordEnumerators _ _)
  | member stands inside =>
    exact same (intents_of_innermost inside rfl) (signatures_recordMember _ _)
  | opensUnit _ _ opened =>
    exact same (intents_of_mark? mark_eq) (signatures_openUnit? opened :)
  | @opensProcedure header after stands heading opened =>
    have signed_eq : state.signed (label :: others) = [header.signature] := by
      simp [signed, mark_eq, unlabelled_eq, heading]
    rw [intents_of_mark? mark_eq, nothing, signed_eq, signatures_openProcedure? heading opened]
    rfl
  | opensInterface _ _ opened =>
    exact same (intents_of_mark? mark_eq) (signatures_openInterface? opened :)
  | opensType _ _ opened =>
    exact same (intents_of_mark? mark_eq) (signatures_openType? opened :)
  | opensConstruct _ _ opened =>
    exact same (intents_of_mark? mark_eq) (signatures_openConstruct? opened :)
  | records stands inside noUnit noProcedure noInterface noType noConstruct =>
    have recorded : state.records (label :: others) = true := by
      have noTarget := stands.noTarget
      simp only [Option.isSome_eq_false_iff] at noTarget
      simp [records, unlabelled_eq, noTarget, mark_eq, stands.noDivider, inside]
    rw [signed_of_mark?_none mark_eq, intents, if_pos recorded, unlabelled_eq,
      signatures_recordPlain]
    exact (zero_add _).symm.le

end ScanState

end FortranStyle
