import FortranStyle.Proofs.Intent.History
import FortranStyle.Proofs.Intent.Listing
import FortranStyle.Proofs.Roster.Procedures
import FortranStyle.Proofs.Sorting.Setting

/-!
# What an INTENT statement reaches

An INTENT statement in the body of a procedure tells the intent of each dummy argument
that it names, and of no other.  Without a double colon all its names are reached, so
none of the arguments is reported for want of an intent.  Behind a double colon the first
name is passed over.
-/

namespace FortranStyle

open Statement (IsIntent unlabelled reached)
open Statement.Attributes (intentOf)
open Tokenized (ofLines)

/-! ## Arguments with a name -/

namespace Argument

variable {intents : List (String × String)} {arguments : List Argument} {name : String}

theorem name_setIntent (argument : Argument) (intent : Option String) :
    ({ argument with intent } : Argument).name = argument.name :=
  rfl

theorem find?_setIntent (intent name other : String) (arguments : List Argument) :
    (setIntent intent name arguments).find? (·.name == other) =
      if name = other then
        (arguments.find? (·.name == other)).map ({ · with intent := some intent })
      else arguments.find? (·.name == other) := by
  induction arguments with
  | nil => simp [setIntent]
  | cons argument rest ih =>
    rw [setIntent]
    by_cases named : argument.name = name
    · by_cases same : name = other
      · simp [named, same, name_setIntent]
      · simp [named, same, name_setIntent]
    · rw [if_neg (by simpa using named), List.find?_cons, List.find?_cons]
      split
      · rename_i here
        have apart : name ≠ other := fun same => named ((eq_of_beq here).trans same.symm)
        rw [if_neg apart]
      · exact ih

/-- What is told of other names does not matter. -/
theorem find?_setIntents_of_ne (apart : ∀ told ∈ intents, told.1 ≠ name) :
    (setIntents intents arguments).find? (·.name == name) = arguments.find? (·.name == name) := by
  induction intents generalizing arguments with
  | nil => rfl
  | cons first rest ih =>
    rw [setIntents, List.foldl_cons]
    refine (ih fun told listed => apart told (List.mem_cons_of_mem _ listed)).trans ?_
    rw [find?_setIntent, if_neg (apart first List.mem_cons_self)]

/-- A name that is told one intent, perhaps more than once, has it in the end. -/
theorem find?_setIntents {intent : String} (alike : ∀ told ∈ intents, told.2 = intent)
    (named : ∃ told ∈ intents, told.1 = name) :
    (setIntents intents arguments).find? (·.name == name) =
      (arguments.find? (·.name == name)).map ({ · with intent := some intent }) := by
  induction intents generalizing arguments with
  | nil =>
    obtain ⟨told, listed, -⟩ := named
    contradiction
  | cons first rest ih =>
    have first_eq := alike first List.mem_cons_self
    have alike' : ∀ told ∈ rest, told.2 = intent := fun told listed =>
      alike told (List.mem_cons_of_mem _ listed)
    rw [setIntents, List.foldl_cons]
    change (setIntents rest _).find? _ = _
    by_cases again : ∃ told ∈ rest, told.1 = name
    · rw [ih alike' again, find?_setIntent]
      split
      · rw [Option.map_map]
        rfl
      · rfl
    · obtain ⟨told, listed, told_eq⟩ := named
      have isFirst : first.1 = name := by
        rcases List.mem_cons.mp listed with rfl | later
        · exact told_eq
        · exact absurd ⟨told, later, told_eq⟩ again
      rw [find?_setIntents_of_ne fun told later same => again ⟨told, later, same⟩,
        find?_setIntent, if_pos isFirst, first_eq]

theorem find?_setIntents_names {names : List Token} {word : Token} (listed : word ∈ names)
    (intent : String) (arguments : List Argument) :
    (setIntents (names.map (·.lower, intent)) arguments).find? (·.name == word.lower) =
      (arguments.find? (·.name == word.lower)).map ({ · with intent := some intent }) :=
  find?_setIntents (by simp) ⟨(word.lower, intent), List.mem_map.mpr ⟨word, listed, rfl⟩, rfl⟩

/-- An argument of whose name nothing is told stays as it is. -/
theorem getElem?_setIntents {n : Nat} {argument : Argument}
    (listed : arguments[n]? = some argument)
    (apart : ∀ told ∈ intents, argument.name ≠ told.1) :
    (setIntents intents arguments)[n]? = some argument := by
  have single (intent name : String) (other : argument.name ≠ name) (arguments : List Argument)
      (n : Nat) (listed : arguments[n]? = some argument) :
      (setIntent intent name arguments)[n]? = some argument := by
    induction arguments generalizing n with
    | nil => contradiction
    | cons first rest ih =>
      rw [setIntent]
      cases n with
      | zero =>
        cases listed
        simp [other]
      | succ n =>
        split
        · exact listed
        · exact ih n listed
  induction intents generalizing arguments with
  | nil => exact listed
  | cons first rest ih =>
    rw [setIntents, List.foldl_cons]
    refine ih (single _ _ (apart first List.mem_cons_self) _ _ listed) fun told later => ?_
    exact apart told (List.mem_cons_of_mem _ later)

end Argument

/-- What it means that the arguments with some names, and no others, are told an
intent. -/
structure Procedure.IsTold (before after : Procedure) (names : List Token) (intent : String) :
    Prop where
  named : ∀ name ∈ names, ∀ argument, before.argument? name.lower = some argument →
    after.argument? name.lower = some { argument with intent := some intent }
  others : ∀ (n : Nat) (argument : Argument), before.arguments[n]? = some argument →
    (∀ name ∈ names, argument.name ≠ name.lower) → after.arguments[n]? = some argument

theorem Procedure.isTold_give (procedure : Procedure) (names : List Token) (intent : String) :
    procedure.IsTold (procedure.give (names.map (·.lower, intent))) names intent where
  named := by
    intro name listed argument found
    rw [argument?] at found ⊢
    rw [give, Argument.find?_setIntents_names listed, found, Option.map_some]
  others n argument listed apart :=
    Argument.getElem?_setIntents listed (by simpa using apart)

/-! ## The statement -/

namespace ScanState

variable {state : ScanState} {statement spec names : List Token} {colons : Option Token}

/-- An INTENT statement opens, closes and divides nothing, and tells the same intent of all
names that it reaches. -/
theorem records_of_isIntent (inside : state.innermost.all (·.isOrdinary) = true)
    (form : IsIntent (unlabelled statement) spec colons names) :
    state.records statement = true ∧
      state.intents statement = (reached colons names).map (·.lower, intentOf spec) ∧
      ∃ label, statement.head? = some label ∧
        state.step statement = (state.recordDepth label state.depth).mapProcedure
          (·.give (state.intents statement)) := by
  generalize unlabelled_eq : unlabelled statement = tokens at form
  cases form with
  | @intro word opening closing spec names list colons isWord opens closes within isDouble lists =>
  generalize rest_eq : opening :: (spec ++ closing :: (colons.toList ++ list)) = rest
    at unlabelled_eq
  have reads := Token.reads_of_isWord isWord
  have behind : Statement.Inert (colons.toList ++ list) := by
    cases colons with
    | none =>
      obtain ⟨name, rest, rfl, isName⟩ := lists.head_isName
      exact Statement.inert_name isName rest
    | some sign =>
      have apart {other : String} (different : "::" ≠ other) : sign.isOp other = false :=
        Position.isOp_eq_false (isDouble sign rfl) different
      constructor
      · rw [Option.toList_some, List.singleton_append, Statement.leadsToAssignment.eq_def]
        simp (disch := decide) [apart]
      · simp (disch := decide) [apart]
  have inert : Statement.Inert rest := by
    rw [← rest_eq]
    exact Statement.inert_bracket opens (by rwa [Bracket.beyond_eq within])
  have bracket : rest.head?.any (·.isOp "(") = true := by
    rw [← rest_eq]
    exact opens
  have quiet := Statement.quiet reads (by decide) inert
  have noConstruct : Statement.construct? (word :: rest) = none := by
    simp [Statement.construct?, reads.word_eq]
  have noDivider : state.innermost.any (Statement.isDivider · (word :: rest)) = false := by
    cases state.innermost with
    | none => rfl
    | some kind => exact Statement.isDivider_eq_false reads (by decide) kind
  have noMark : state.mark? statement = none := by
    rw [mark?, Statement.mark?, unlabelled_eq]
    simp [quiet.noAssignment, quiet.noCloser, ← innermost_eq, opened?_of_isOrdinary inside,
      quiet.noUnit, quiet.noProcedure, quiet.noInterface, quiet.noType, noConstruct]
  have recorded : state.records statement = true := by
    simp [records, unlabelled_eq, quiet.noAssignment, noMark, noDivider, inside]
  have noType : Statement.isDeclaration (word :: rest) = false := by
    simp [Statement.isDeclaration, reads.isAmong_eq, Vocabulary.intrinsicTypes]
  have told : state.intents statement =
      (Statement.listedNames (rest.drop (Bracket.partner rest))).map
        (·.lower, intentOf (Bracket.inside rest)) := by
    rw [intents, if_pos recorded, unlabelled_eq, Statement.intents, noType]
    simp [isWord, bracket]
  refine ⟨recorded, ?_, ?_⟩
  · rw [told, ← rest_eq, Bracket.drop_partner within, Bracket.inside_eq within,
      Statement.listedNames_closing_cons closes isDouble lists]
  · cases statement with
    | nil => contradiction
    | cons label others =>
      refine ⟨label, rfl, ?_⟩
      have plain_eq (before : ScanState) :
          before.recordPlain (word :: rest) = before.recordIntent (word :: rest) := by
        simp [recordPlain, reads.isWord_eq, noType]
      rw [step_of_records unlabelled_eq recorded, plain_eq, recordIntent_eq _ bracket, told]

/-- A procedure that is open is found in the end, unless no walk over the source comes to
its place. -/
theorem exists_procedure_of_home {before rest : List (List Token)} {procedure : Procedure}
    (lineCount : Nat)
    (innermost : Frames.procedure? (initial.run before).frames = some procedure)
    (shown : Frames.home (initial.run before).frames ≠ .lost) :
    ∃ found ∈ (Outline.ofStatements lineCount (before ++ rest)).procedures,
      found.1.token = procedure.token := by
  have open_ : ∃ place, (place, procedure.husk) ∈
      (initial.run before).members.filterMap Member.shown? := by
    unfold Frames.procedure? at innermost
    split at innermost
    · rename_i opener node inSpecification nested scope_eq
      obtain rfl := Option.some.inj innermost
      obtain ⟨others, whole, -⟩ := Frames.exists_members_mapScope _ scope_eq (f := id)
        (.refl _) rfl
      have own : (Frames.home (initial.run before).frames).member (.procedure node) ≤
          (initial.run before).members := by
        rw [members, whole]
        refine le_trans ?_ (Multiset.le_add_right _ _)
        exact (Multiset.le_add_right _ _).trans (Multiset.le_add_left _ _)
      have single := Multiset.filterMap_le_filterMap Member.shown? own
      rw [Home.member, Home.filterMap_members] at single
      cases home_eq : Frames.home (initial.run before).frames with
      | unit token =>
        rw [home_eq] at single
        exact ⟨some token, Multiset.mem_of_le single (by simp [Opening.shown?, Home.shown?])⟩
      | external =>
        rw [home_eq] at single
        exact ⟨none, Multiset.mem_of_le single (by simp [Opening.shown?, Home.shown?])⟩
      | lost => exact absurd home_eq shown
    · contradiction
  obtain ⟨place, member⟩ := open_
  have kept : (place, procedure.husk) ∈ (Outline.ofStatements lineCount
      (before ++ rest)).members.filterMap Member.shown? := by
    rw [Outline.members_ofStatements, run, List.foldl_append]
    change _ ∈ (((initial.run before).run rest).members.filterMap Member.shown?)
    rw [shown_run]
    exact Multiset.mem_add.mpr (.inr member)
  rw [Outline.shown_members, Multiset.mem_coe] at kept
  obtain ⟨found, listed, shown_eq⟩ := List.mem_map.mp kept
  exact ⟨found, listed, congrArg (·.2.token) shown_eq⟩

end ScanState

/-! ## Reports -/

section Reports

variable {source : List String} {found : Procedure × Option ProgramUnit} {argument : Argument}

/-- The headers of a source list different tokens, all of them in statements. -/
theorem headed_ofLines_le (source : List String) :
    (ScanState.initial.run (ofLines source).statements).headed ≤
      ↑(ofLines source).statements.flatten :=
  (ScanState.initial.headed_run_le _).trans (add_zero _).le

theorem nodup_headed_ofLines (source : List String) :
    (ScanState.initial.run (ofLines source).statements).headed.Nodup :=
  Multiset.nodup_of_le (headed_ofLines_le source) (Tokenized.nodup_statements source)

theorem signature_mem_of_mem_procedures
    (listed : found ∈ (Outline.ofTokenized (ofLines source)).procedures) :
    found.1.signature ∈ (ScanState.initial.run (ofLines source).statements).signatures := by
  refine Multiset.mem_of_le (Outline.signatures_le (ofLines source).lines.length _) ?_
  exact Multiset.mem_coe.mpr (List.mem_map_of_mem (List.mem_map_of_mem listed))

theorem token_mem_tokens (listed : argument ∈ found.1.arguments) :
    argument.token ∈ found.1.signature.tokens :=
  List.mem_cons_of_mem _ (List.mem_map.mpr ⟨argument.bare, List.mem_map_of_mem listed, rfl⟩)

/-- Where the rule of intents reports something, an argument stands that has no intent. -/
theorem intent_eq_none_of_mem_checkLines {path : String} {settings : Settings}
    {diagnostic : Diagnostic} (reported : diagnostic ∈ checkLines path source settings)
    (named : diagnostic.rule = Rule.intentRequired.name)
    (listed : found ∈ (Outline.ofTokenized (ofLines source)).procedures)
    (inside : argument ∈ found.1.arguments)
    (place : diagnostic.line = argument.token.line ∧ diagnostic.column = argument.token.column) :
    argument.intent = none := by
  obtain ⟨finding, checked, line_eq, column_eq⟩ :=
    Source.exists_finding_of_mem_judge _ (Source.mem_judge_of_rule_eq _ reported named)
  obtain ⟨other, listed', checked⟩ := List.mem_flatMap.mp checked
  obtain ⟨blamed, kept, finding_eq⟩ := List.mem_map.mp checked
  obtain ⟨inside', open_⟩ := List.mem_filter.mp kept
  simp only [Bool.and_eq_true, Option.isNone_iff_eq_none] at open_
  have read {found : Procedure × Option ProgramUnit} {argument : Argument}
      (listed : found ∈ (Outline.ofTokenized (ofLines source)).procedures)
      (inside : argument ∈ found.1.arguments) :
      argument.token ∈ (ofLines source).statements.flatten :=
    Multiset.mem_of_le (headed_ofLines_le source)
      (Multiset.mem_bind.mpr ⟨_, signature_mem_of_mem_procedures listed, token_mem_tokens inside⟩)
  have token_eq : blamed.token = argument.token := by
    refine Tokenized.eq_of_start_eq (read listed' inside') (read listed inside) ?_
    rw [line_eq, column_eq, ← finding_eq] at place
    exact Prod.ext (Int.ofNat_inj.mp place.1) (Int.ofNat_inj.mp place.2)
  have same := ScanState.eq_of_mem_tokens (nodup_headed_ofLines source)
    (signature_mem_of_mem_procedures listed') (signature_mem_of_mem_procedures listed)
    (token_mem_tokens inside') (by rw [token_eq]; exact token_mem_tokens inside)
  have bare_eq : blamed.bare = argument.bare := by
    have distinct := (Multiset.nodup_bind.mp (nodup_headed_ofLines source)).1 _
      (signature_mem_of_mem_procedures listed)
    refine List.inj_on_of_nodup_map (List.nodup_cons.mp (Multiset.coe_nodup.mp distinct)).2
      ?_ (List.mem_map_of_mem inside) token_eq
    rw [← same]
    exact List.mem_map_of_mem inside'
  exact (congrArg Argument.intent bare_eq).symm.trans open_.1

end Reports

/-! ## Sources -/

theorem Procedure.map_bare_argument? (procedure : Procedure) (name : String) :
    (procedure.argument? name).map Argument.bare =
      procedure.signature.arguments.find? (·.name == name) := by
  rw [argument?, signature, List.find?_map]
  rfl

/-- A procedure in the outline has the arguments that it had at any place in its body, with
the intents that the statements from there on tell of them. -/
theorem arguments_of_statements {source : List String} {before rest : List (List Token)}
    {procedure : Procedure} {found : Procedure × Option ProgramUnit}
    (statements_eq : (ofLines source).statements = before ++ rest)
    (inBody : Frames.procedure? (ScanState.initial.run before).frames = some procedure)
    (listed : found ∈ (Outline.ofTokenized (ofLines source)).procedures)
    (named : found.1.token = procedure.token) :
    found.1.signature.arguments =
      Argument.setIntents
        ((ScanState.initial.run before).intentHistory procedure.token rest)
        (procedure.arguments.map Argument.bare) := by
  set state := ScanState.initial.run before
  have ran : ScanState.initial.run (ofLines source).statements = state.run rest := by
    rw [statements_eq]
    exact List.foldl_append
  have distinct : (↑rest.flatten + state.headed : Multiset Token).Nodup := by
    refine Multiset.nodup_of_le ?_ (Multiset.coe_nodup.mpr (Tokenized.nodup_statements source))
    have bound := ScanState.initial.headed_run_le before
    rw [statements_eq, List.flatten_append, ← Multiset.coe_add, add_comm]
    gcongr
    exact bound.trans (add_zero _).le
  have own : procedure.signature ∈ state.signatures := by
    obtain ⟨others, whole, -⟩ := ScanState.exists_signatures_give inBody
    rw [whole]
    exact Multiset.mem_cons_self _ _
  have apart := Multiset.nodup_add.mp distinct
  have fresh : procedure.token ∉ rest.flatten := fun listed =>
    Multiset.disjoint_left.mp apart.2.2 (Multiset.mem_coe.mpr listed)
      (Multiset.mem_bind.mpr ⟨_, own, List.mem_cons_self⟩)
  -- No other procedure has the name, so what the statements tell of it is told of this one.
  have kept : ∀ signature ∈ state.signatures, signature.token = procedure.token →
      signature.arguments = procedure.arguments.map Argument.bare := by
    intro signature listed named
    have inside : procedure.token ∈ signature.tokens := by
      rw [← named]
      exact List.mem_cons_self
    rw [ScanState.eq_of_mem_tokens apart.2.1 listed own inside List.mem_cons_self]
    rfl
  have final := ScanState.arguments_run fresh distinct kept
  rw [← ran] at final
  exact final _ (signature_mem_of_mem_procedures listed) named

/-- An INTENT statement directly in the body of a procedure sets the intent of the dummy
arguments whose names it reaches, the text in its brackets in small letters and without
blanks, and changes nothing else but the depth of its line.  Without a double colon all
names are reached; behind one the first is not.  In the outline a reached argument has this
intent when no later statement in the body tells another one of its name, and it is not
reported for want of an intent. -/
theorem intents_of_statement {source : List String} {before after : List (List Token)}
    {statement spec names : List Token} {colons : Option Token} {procedure : Procedure}
    (statements_eq : (ofLines source).statements = before ++ statement :: after)
    (inBody : Frames.procedure? (ScanState.initial.run before).frames = some procedure)
    (direct : (ScanState.initial.run before).innermost.all (·.isOrdinary) = true)
    (form : IsIntent (unlabelled statement) spec colons names) :
    let state := ScanState.initial.run before
    let told := procedure.give ((reached colons names).map (·.lower, intentOf spec))
    let outline := Outline.ofTokenized (ofLines source)
    (∃ label, statement.head? = some label ∧
      state.step statement = (state.recordDepth label state.depth).mapProcedure
        (·.give ((reached colons names).map (·.lower, intentOf spec)))) ∧
    procedure.IsTold told (reached colons names) (intentOf spec) ∧
    (Frames.home state.frames ≠ .lost →
      ∃ found ∈ outline.procedures, found.1.token = procedure.token) ∧
    ∀ found ∈ outline.procedures, found.1.token = procedure.token →
      found.1.arguments.map (·.token) = procedure.arguments.map (·.token) ∧
      ∀ name ∈ reached colons names,
        (∀ later ∈ (state.step statement).intentHistory procedure.token after,
          later.1 ≠ name.lower) →
        ∀ argument, found.1.argument? name.lower = some argument →
          argument.intent = some (intentOf spec) ∧
          ∀ path settings, ∀ diagnostic ∈ checkLines path source settings,
            diagnostic.rule = "INTENT-REQUIRED" →
              ¬(diagnostic.line = argument.token.line ∧
                diagnostic.column = argument.token.column) := by
  intro state told outline
  obtain ⟨recorded, intents_eq, label, label_eq, step_eq⟩ :=
    ScanState.records_of_isIntent direct form
  have outline_eq : outline = Outline.ofStatements (ofLines source).lines.length
      (before ++ statement :: after) := by
    rw [← statements_eq]
    rfl
  have now : state.intentsFor procedure.token statement =
      (reached colons names).map (·.lower, intentOf spec) := by
    rw [ScanState.intentsFor, inBody, Option.any_some, beq_self_eq_true, if_pos rfl, intents_eq]
  refine ⟨⟨label, label_eq, intents_eq ▸ step_eq⟩, procedure.isTold_give _ _, ?_, ?_⟩
  · intro shown
    rw [outline_eq]
    exact ScanState.exists_procedure_of_home _ inBody shown
  intro found listed named
  have arguments_eq := arguments_of_statements statements_eq inBody listed named
  rw [ScanState.intentHistory, now, Argument.setIntents_append] at arguments_eq
  have tokens_eq (arguments : List Argument) :
      (arguments.map Argument.bare).map (·.token) = arguments.map (·.token) := by
    rw [List.map_map]
    rfl
  constructor
  · rw [← tokens_eq, ← tokens_eq procedure.arguments]
    refine (congrArg (List.map Argument.token) arguments_eq).trans ?_
    rw [Argument.map_setIntents fun _ _ => rfl, Argument.map_setIntents fun _ _ => rfl]
  intro name reached_ quiet argument found_eq
  have intent_eq : argument.intent = some (intentOf spec) := by
    have seen := found.1.map_bare_argument? name.lower
    rw [found_eq, Option.map_some, arguments_eq, Argument.find?_setIntents_of_ne quiet,
      Argument.find?_setIntents_names reached_] at seen
    obtain ⟨_, -, bare_eq⟩ := Option.map_eq_some_iff.mp seen.symm
    exact (congrArg Argument.intent bare_eq).symm
  refine ⟨intent_eq, fun path settings diagnostic reported rule_eq place => ?_⟩
  have unset := intent_eq_none_of_mem_checkLines reported rule_eq listed
    (List.mem_of_find?_eq_some found_eq) place
  rw [intent_eq] at unset
  contradiction

/-- An intent of two words is told of two arguments, and another argument is declared
later. -/
theorem intents_of_statement_subroutine :
    let source := ["subroutine s(a, b, c)", "intent(IN Out) b, a", "real, intent(in) :: c",
      "end subroutine"]
    let outline := Outline.ofTokenized (ofLines source)
    (∃ found ∈ outline.procedures, found.1.token = ⟨.identifier, "s", 1, 12, 1, 12⟩) ∧
      ∀ found ∈ outline.procedures, found.1.token = ⟨.identifier, "s", 1, 12, 1, 12⟩ →
        ∀ argument, found.1.argument? "a" = some argument → argument.intent = some "inout" := by
  intro source outline
  let first : Token := ⟨.identifier, "b", 2, 16, 2, 16⟩
  let comma : Token := ⟨.operator, ",", 2, 17, 2, 17⟩
  let name : Token := ⟨.identifier, "a", 2, 19, 2, 19⟩
  let spec : List Token := [⟨.keyword, "IN", 2, 8, 2, 9⟩, ⟨.keyword, "Out", 2, 11, 2, 13⟩]
  let statement : List Token :=
    ⟨.keyword, "intent", 2, 1, 2, 6⟩ :: ⟨.operator, "(", 2, 7, 2, 7⟩ ::
      (spec ++ ⟨.operator, ")", 2, 14, 2, 14⟩ ::
        (Option.toList none ++ [first, comma, name]))
  have statements_eq : (ofLines source).statements =
      (ofLines source).statements.take 1 ++ statement :: (ofLines source).statements.drop 2 := by
    decide +kernel
  have form : IsIntent (unlabelled statement) spec none [first, name] := by
    have lists : Statement.Lists [first, name] [first, comma, name] :=
      .more (by decide) (by decide) (.one (by decide))
    have whole : unlabelled statement = statement := by decide
    rw [whole]
    exact .intro (by decide) (by decide) (by decide) (by decide) (by simp) lists
  have token_eq : (Frames.procedure? (ScanState.initial.run
      ((ofLines source).statements.take 1)).frames).map (·.token) =
        some ⟨.identifier, "s", 1, 12, 1, 12⟩ := by
    decide +kernel
  have direct : (ScanState.initial.run
      ((ofLines source).statements.take 1)).innermost.all (·.isOrdinary) = true := by
    decide +kernel
  have shown : Frames.home (ScanState.initial.run
      ((ofLines source).statements.take 1)).frames ≠ .lost := by
    decide +kernel
  have quiet : ∀ later ∈ ((ScanState.initial.run ((ofLines source).statements.take 1)).step
      statement).intentHistory ⟨.identifier, "s", 1, 12, 1, 12⟩
        ((ofLines source).statements.drop 2), later.1 ≠ name.lower := by
    decide +kernel
  have lower_eq : name.lower = "a" := by decide +kernel
  have spec_eq : intentOf spec = "inout" := by decide +kernel
  obtain ⟨procedure, inBody, named⟩ := Option.map_eq_some_iff.mp token_eq
  obtain ⟨-, -, found, final⟩ := intents_of_statement statements_eq inBody direct form
  rw [named] at found final
  refine ⟨found shown, fun yielded listed isIt argument argument_eq => ?_⟩
  rw [← lower_eq] at argument_eq
  rw [← spec_eq]
  exact ((final yielded listed isIt).2 name (.tail _ (.head _)) quiet argument argument_eq).1

/-- Behind a double colon the first name is not reached: its argument has no intent and is
reported. -/
theorem intents_of_statement_colons :
    let source := ["subroutine s(a, b)", "intent(in) :: a, b", "end subroutine"]
    let reported := Rule.intentRequired.diagnostic "s.f90" 1 14
      "Dummy argument 'a' of subroutine 's' has no explicit INTENT"
    (Outline.ofTokenized (ofLines source)).procedures.map (·.1.arguments) =
        [[⟨⟨.identifier, "a", 1, 14, 1, 14⟩, none, false⟩,
          ⟨⟨.identifier, "b", 1, 17, 1, 17⟩, some "in", false⟩]] ∧
      reported ∈ checkLines "s.f90" source .default := by
  intro source reported
  have judged : reported ∈ (Source.ofLines "s.f90" source).judge .default .intentRequired := by
    decide +kernel
  exact ⟨by decide +kernel, (Source.mem_check _).mpr ⟨_, judged⟩⟩

end FortranStyle
