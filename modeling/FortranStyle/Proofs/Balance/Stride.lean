import FortranStyle.Proofs.Balance.Section
import FortranStyle.Proofs.Nesting.Account

/-!
# Strided references

What stands in the bracket of a reference is cut at the commas outside brackets.  A reference
is strided when one of these subscripts has no colon outside brackets and a later one has.  The
rule finds each strided reference once, at its name, and judges it by its own bracket alone,
whatever reference it stands in.
-/

namespace FortranStyle

namespace Bracket

variable {operator : String} {depth : Int} {tokens : List Token}

/-! ## Outside brackets -/

/-- How many more brackets open in a run than close in it. -/
def level (tokens : List Token) : Int :=
  tokens.countP Token.isOpening - tokens.countP Token.isClosing

theorem depthAfter_eq (depth : Int) (token : Token) :
    depthAfter depth token = depth + level [token] := by
  rcases opens : token.isOpening with _ | _
  · rcases closes : token.isClosing with _ | _
    · simp [depthAfter, level, opens, closes]
    · simp [depthAfter, level, opens, closes]
      rfl
  · have noClosing := Position.not_isClosing_of_isOpening opens
    simp [depthAfter, level, opens, noClosing]

theorem level_append (front rest : List Token) :
    level (front ++ rest) = level front + level rest := by
  simp only [level, List.countP_append, Int.natCast_add]
  omega

theorem add_level_cons (depth : Int) (token : Token) (rest : List Token) :
    depth + level (token :: rest) = depthAfter depth token + level rest := by
  rw [← List.singleton_append, level_append, depthAfter_eq, Int.add_assoc]

theorem foldl_depthAfter (depth : Int) (tokens : List Token) :
    tokens.foldl depthAfter depth = depth + level tokens := by
  induction tokens generalizing depth with
  | nil => simp [level]
  | cons token rest ih => rw [List.foldl_cons, ih, add_level_cons]

/-- An operator stands in a run outside brackets. -/
def Shows (operator : String) (tokens : List Token) : Prop :=
  ∃ front token rest, tokens = front ++ token :: rest ∧ level front = 0 ∧
    token.isOp operator = true

/-- The first operator that is found has none in front of it. -/
theorem exists_of_findFrom? {index : Nat} (found : findFrom? operator depth tokens = some index) :
    ∃ front token rest, tokens = front ++ token :: rest ∧ findFrom? operator depth front = none ∧
      depth + level front = 0 ∧ token.IsFlat ∧ token.isOp operator = true := by
  induction tokens generalizing depth index with
  | nil => contradiction
  | cons token rest ih =>
    rw [findFrom?] at found
    split at found
    · rename_i here
      simp only [Bool.and_eq_true, beq_iff_eq, Bool.not_eq_true'] at here
      obtain ⟨⟨⟨top, noOpening⟩, noClosing⟩, isOp⟩ := here
      exact ⟨[], token, rest, rfl, rfl, by simp [top, level], ⟨noOpening, noClosing⟩, isOp⟩
    · rename_i other
      obtain ⟨_, later, -⟩ := Option.map_eq_some_iff.mp found
      obtain ⟨front, token', rest', rfl, none', level_eq, isFlat, isOp⟩ := ih later
      refine ⟨token :: front, token', rest', rfl, ?_, ?_, isFlat, isOp⟩
      · rw [findFrom?, if_neg other, none', Option.map_none]
      · rw [← foldl_depthAfter] at level_eq ⊢
        exact level_eq

theorem isSome_findFrom? {front rest : List Token} {token : Token} (isFlat : token.IsFlat)
    (isOp : token.isOp operator = true) (top : depth + level front = 0) :
    (findFrom? operator depth (front ++ token :: rest)).isSome = true := by
  induction front generalizing depth with
  | nil =>
    have depth_eq : depth = 0 := by simpa [level] using top
    rw [List.nil_append, findFrom?, depth_eq, isFlat.noOpening, isFlat.noClosing, isOp]
    rfl
  | cons first more ih =>
    rw [← foldl_depthAfter, List.foldl_cons, foldl_depthAfter] at top
    rw [List.cons_append, findFrom?]
    split
    · rfl
    · rw [Option.isSome_map]
      exact ih top

theorem isSome_find?_iff (noBracket : operator ∉ ["(", "(/", "[", ")", "/)", "]"]) :
    (find? operator tokens).isSome = true ↔ Shows operator tokens := by
  constructor
  · intro found
    obtain ⟨index, found⟩ := Option.isSome_iff_exists.mp found
    obtain ⟨front, token, rest, rfl, -, top, -, isOp⟩ := exists_of_findFrom? found
    exact ⟨front, token, rest, rfl, by rwa [Int.zero_add] at top, isOp⟩
  · rintro ⟨front, token, rest, rfl, top, isOp⟩
    exact isSome_findFrom? (Token.isFlat_of_isOp isOp noBracket) isOp (by rwa [Int.zero_add])

/-! ## Lists -/

/-- What stands between the commas of a run outside brackets. -/
inductive IsListOf : List Token → List (List Token) → Prop
  | last {item : List Token} (whole : ¬Shows "," item) : IsListOf item [item]
  | more {item rest : List Token} {items : List (List Token)} {comma : Token}
      (whole : ¬Shows "," item) (top : level item = 0) (isComma : comma.isOp "," = true)
      (later : IsListOf rest items) : IsListOf (item ++ comma :: rest) (item :: items)

theorem not_shows_comma_iff : ¬Shows "," tokens ↔ find? "," tokens = none := by
  rw [← isSome_find?_iff (by decide), Option.not_isSome_iff_eq_none]

theorem items_append_cons {item rest : List Token} {comma : Token} (whole : find? "," item = none)
    (top : level item = 0) (isComma : comma.isOp "," = true) :
    items (item ++ comma :: rest) = item :: items rest := by
  have isFlat := Token.isFlat_of_isOp isComma (by decide)
  rw [items, split, splitFrom_append whole, foldl_depthAfter, top, splitFrom, isFlat.noOpening,
    isFlat.noClosing, isComma]
  simp [items, split]

theorem IsListOf.items_eq {items : List (List Token)} (lists : IsListOf tokens items) :
    Bracket.items tokens = items := by
  induction lists with
  | last whole => exact split_eq_singleton (not_shows_comma_iff.mp whole)
  | more whole top isComma _ ih =>
    rw [items_append_cons (not_shows_comma_iff.mp whole) top isComma, ih]

theorem isListOf_items (tokens : List Token) : IsListOf tokens (items tokens) := by
  -- A list goes on behind its first comma, with fewer tokens.
  induction length_eq : tokens.length using Nat.strongRecOn generalizing tokens with
  | ind length ih =>
    cases found : find? "," tokens with
    | none =>
      rw [items, split_eq_singleton found]
      exact .last (not_shows_comma_iff.mpr found)
    | some index =>
      obtain ⟨item, comma, rest, rfl, whole, top, -, isComma⟩ := exists_of_findFrom? found
      rw [Int.zero_add] at top
      rw [items_append_cons whole top isComma]
      refine .more (not_shows_comma_iff.mpr whole) top isComma (ih rest.length ?_ rest rfl)
      simp only [List.length_append, List.length_cons] at length_eq
      omega

/-! ## What stands in a bracket -/

/-- An open bracket in front of a run is closed behind the part `inner` of it. -/
def ClosesBehind (tokens inner : List Token) : Prop :=
  ∃ closing rest, tokens = inner ++ closing :: rest ∧ Balanced inner ∧ closing.isClosing = true

/-- An open bracket in front of a run holds the part `inner` of it.  A bracket that never closes
holds all but the last token. -/
def Holds (tokens inner : List Token) : Prop :=
  ClosesBehind tokens inner ∨ (∀ other, ¬ClosesBehind tokens other) ∧ inner = tokens.dropLast

/-- Up to the bracket that closes the outermost of some open ones, all brackets but that one
are closed. -/
theorem exists_of_closingIndex? {outer index : Nat}
    (found : closingIndex? (outer + 1) tokens = some index) :
    ∃ inner closing rest, tokens = inner ++ closing :: rest ∧ isBalancedFrom outer inner = true ∧
      closing.isClosing = true := by
  induction tokens generalizing outer index with
  | nil => contradiction
  | cons token rest ih =>
    rcases opens : token.isOpening with _ | _
    · rcases closes : token.isClosing with _ | _
      · have isFlat : token.IsFlat := ⟨opens, closes⟩
        rw [closingIndex?_cons (by simp [closes]), isFlat.depthAfter_eq] at found
        obtain ⟨_, later, -⟩ := Option.map_eq_some_iff.mp found
        obtain ⟨inner, closing, rest', rfl, counted, closes'⟩ := ih later
        exact ⟨token :: inner, closing, rest', rfl,
          by simp [isBalancedFrom, opens, closes, counted], closes'⟩
      · cases outer with
        | zero => exact ⟨[], token, rest, rfl, rfl, closes⟩
        | succ outer =>
          have level_eq : depthAfter ((outer + 1 : Nat) + 1) token = outer + 1 := by
            rw [Token.depthAfter_of_isClosing closes, Int.add_sub_cancel, Int.natCast_add_one]
          rw [closingIndex?_cons (fun _ => by omega), level_eq] at found
          obtain ⟨_, later, -⟩ := Option.map_eq_some_iff.mp found
          obtain ⟨inner, closing, rest', rfl, counted, closes'⟩ := ih later
          exact ⟨token :: inner, closing, rest', rfl,
            by simp [isBalancedFrom, opens, closes, counted], closes'⟩
    · have noClosing := Position.not_isClosing_of_isOpening opens
      have level_eq : depthAfter (outer + 1) token = (outer + 1 : Nat) + 1 := by
        rw [depthAfter_of_isOpening opens, Int.natCast_add_one]
      rw [closingIndex?_cons (by simp [noClosing]), level_eq] at found
      obtain ⟨_, later, -⟩ := Option.map_eq_some_iff.mp found
      obtain ⟨inner, closing, rest', rfl, counted, closes'⟩ := ih later
      exact ⟨token :: inner, closing, rest', rfl, by simp [isBalancedFrom, opens, counted],
        closes'⟩

variable {opening : Token} {inner : List Token}

theorem ClosesBehind.closingIndex?_eq (opens : opening.isOpening = true)
    (closed : ClosesBehind tokens inner) :
    closingIndex? 0 (opening :: tokens) = some (inner.length + 1) := by
  obtain ⟨closing, rest, rfl, balanced, closes⟩ := closed
  have found := closingIndex?_append (balanced.closingIndex?_pair opens closes) rest
  rwa [List.cons_append, List.append_assoc, List.singleton_append] at found

theorem ClosesBehind.inside_eq (opens : opening.isOpening = true)
    (closed : ClosesBehind tokens inner) : inside (opening :: tokens) = inner := by
  obtain ⟨closing, rest, rfl, balanced, closes⟩ := closed
  exact Bracket.inside_eq (balanced.closingIndex?_pair opens closes) rest

theorem exists_closesBehind {index : Nat} (opens : opening.isOpening = true)
    (found : closingIndex? 0 (opening :: tokens) = some index) :
    ∃ inner, ClosesBehind tokens inner := by
  have noClosing := Position.not_isClosing_of_isOpening opens
  rw [closingIndex?_cons (by simp [noClosing]), depthAfter_of_isOpening opens] at found
  obtain ⟨index', later, -⟩ := Option.map_eq_some_iff.mp found
  have later' : closingIndex? ((0 : Nat) + 1) tokens = some index' := later
  obtain ⟨inner, closing, rest, tokens_eq, counted, closes⟩ := exists_of_closingIndex? later'
  exact ⟨inner, closing, rest, tokens_eq, balanced_iff.mpr counted, closes⟩

theorem inside_of_open (unclosed : closingIndex? 0 (opening :: tokens) = none) :
    inside (opening :: tokens) = tokens.dropLast := by
  rw [inside, partner, unclosed, Option.getD_none, List.length_cons, Nat.add_sub_cancel,
    List.drop_take, List.drop_one, List.tail_cons, List.dropLast_eq_take]

/-- The part of a run that stands in a bracket is the one that is read. -/
theorem holds_iff (opens : opening.isOpening = true) :
    Holds tokens inner ↔ inside (opening :: tokens) = inner := by
  cases found : closingIndex? 0 (opening :: tokens) with
  | some index =>
    obtain ⟨read, closed⟩ := exists_closesBehind opens found
    rw [closed.inside_eq opens]
    constructor
    · rintro (closed' | ⟨never, -⟩)
      · rw [← closed.inside_eq opens, closed'.inside_eq opens]
      · exact absurd closed (never read)
    · rintro rfl
      exact .inl closed
  | none =>
    have never (other : List Token) : ¬ClosesBehind tokens other := by
      intro closed
      rw [closed.closingIndex?_eq opens] at found
      contradiction
    rw [inside_of_open found]
    constructor
    · rintro (closed | ⟨-, rfl⟩)
      · exact absurd closed (never inner)
      · rfl
    · rintro rfl
      exact .inr ⟨never, rfl⟩

end Bracket

open FortranStyle.Bracket (Balanced Shows IsListOf ClosesBehind Holds)

namespace Rule

/-! ## Strided subscripts -/

/-- A subscript with a colon outside brackets. -/
def Ranges (subscript : List Token) : Prop :=
  Shows ":" subscript ∨ Shows "::" subscript

theorem isRange_iff {subscript : List Token} : isRange subscript = true ↔ Ranges subscript := by
  rw [isRange, Bool.or_eq_true, Bracket.isSome_find?_iff (by decide),
    Bracket.isSome_find?_iff (by decide), Ranges]

/-- A single subscript stands before one that selects a range. -/
def Strides (subscripts : List (List Token)) : Prop :=
  ∃ (first second : Nat) (single range : List Token), first < second ∧
    subscripts[first]? = some single ∧ ¬Ranges single ∧ subscripts[second]? = some range ∧
      Ranges range

theorem strides_cons_iff {subscript : List Token} {rest : List (List Token)} :
    Strides (subscript :: rest) ↔
      Strides rest ∨ ¬Ranges subscript ∧ ∃ range ∈ rest, Ranges range := by
  constructor
  · rintro ⟨first, second, single, range, before, at_first, isSingle, at_second, ranges⟩
    obtain ⟨second, rfl⟩ := Nat.exists_eq_succ_of_ne_zero (by omega : second ≠ 0)
    rw [List.getElem?_cons_succ] at at_second
    cases first with
    | zero =>
      rw [List.getElem?_cons_zero, Option.some.injEq] at at_first
      exact .inr ⟨at_first ▸ isSingle, range, List.mem_of_getElem? at_second, ranges⟩
    | succ first =>
      exact .inl ⟨first, second, single, range, by omega, at_first, isSingle, at_second, ranges⟩
  · rintro (⟨first, second, single, range, before, at_first, isSingle, at_second, ranges⟩ |
      ⟨isSingle, range, listed, ranges⟩)
    · exact ⟨first + 1, second + 1, single, range, by omega, at_first, isSingle, at_second, ranges⟩
    · obtain ⟨second, at_second⟩ := List.getElem?_of_mem listed
      exact ⟨0, second + 1, subscript, range, by omega, rfl, isSingle, at_second, ranges⟩

/-- Looking for a range behind the ranges in front decides whether there is such a pair. -/
theorem isStrided_iff {subscripts : List (List Token)} :
    isStrided subscripts = true ↔ Strides subscripts := by
  induction subscripts with
  | nil => simp [isStrided, Strides]
  | cons subscript rest ih =>
    rw [strides_cons_iff, ← ih, isStrided, isStrided]
    by_cases ranges : Ranges subscript
    · rw [List.dropWhile_cons_of_pos (isRange_iff.mpr ranges)]
      simp [ranges]
    · have isRange_eq : isRange subscript = false := by
        rw [← Bool.not_eq_true, isRange_iff]
        exact ranges
      have later : (rest.dropWhile isRange).any isRange = true →
          ∃ range ∈ rest, Ranges range := by
        intro found
        obtain ⟨range, listed, selects⟩ := List.any_eq_true.mp found
        exact ⟨range, (List.dropWhile_sublist _).mem listed, isRange_iff.mp selects⟩
      rw [List.dropWhile_cons_of_neg (by simp [isRange_eq]), List.any_cons, isRange_eq,
        Bool.false_or, List.any_eq_true]
      simp only [isRange_iff]
      exact ⟨fun found => .inr ⟨ranges, found⟩, fun found => found.elim later And.right⟩

/-! ## References -/

/-- A list with a single subscript before one that selects a range. -/
def IsStridedList (inner : List Token) : Prop :=
  ∃ subscripts, IsListOf inner subscripts ∧ Strides subscripts

/-- A name with a bracket behind it that holds such a list. -/
def IsStridedName (token : Token) (behind : List Token) : Prop :=
  token.kind = .identifier ∧ ∃ opening tokens inner, behind = opening :: tokens ∧
    opening.isOp "(" = true ∧ Holds tokens inner ∧ IsStridedList inner

theorem isStridedName_iff {token : Token} {behind : List Token} :
    (token.kind == .identifier && behind.head?.any (·.isOp "(") &&
      isStrided (Bracket.items (Bracket.inside behind))) = true ↔ IsStridedName token behind := by
  simp only [Bool.and_eq_true, beq_iff_eq, isStrided_iff, IsStridedName, IsStridedList]
  cases behind with
  | nil => simp
  | cons opening tokens =>
    constructor
    · rintro ⟨⟨isIdentifier, opens⟩, strides⟩
      have holds : Holds tokens (Bracket.inside (opening :: tokens)) :=
        (Bracket.holds_iff (Bracket.isOpening_of_isOp opens)).mpr rfl
      exact ⟨isIdentifier, opening, tokens, _, rfl, opens, holds, _, Bracket.isListOf_items _,
        strides⟩
    · rintro ⟨isIdentifier, _, _, inner, behind_eq, opens, holds, subscripts, lists, strides⟩
      cases behind_eq
      rw [(Bracket.holds_iff (Bracket.isOpening_of_isOp opens)).mp holds, lists.items_eq]
      exact ⟨⟨isIdentifier, opens⟩, strides⟩

/-- A reference whose bracket closes is judged by what stands in it. -/
theorem isStridedName_of_balanced {token opening closing : Token} {inner rest : List Token}
    (opens : opening.isOp "(" = true) (balanced : Balanced inner)
    (closes : closing.isClosing = true) :
    IsStridedName token (opening :: (inner ++ closing :: rest)) ↔
      token.kind = .identifier ∧ IsStridedList inner := by
  have holds : Holds (inner ++ closing :: rest) inner :=
    .inl ⟨closing, rest, rfl, balanced, closes⟩
  have isOpening := Bracket.isOpening_of_isOp opens
  constructor
  · rintro ⟨isIdentifier, _, _, inner', behind_eq, _, holds', strided⟩
    cases behind_eq
    rw [← (Bracket.holds_iff isOpening).mp holds, (Bracket.holds_iff isOpening).mp holds']
    exact ⟨isIdentifier, strided⟩
  · rintro ⟨isIdentifier, strided⟩
    exact ⟨isIdentifier, opening, _, inner, rfl, opens, holds, strided⟩

theorem mem_stridedNames_iff {token : Token} {tokens : List Token} :
    token ∈ stridedNames tokens ↔
      ∃ before behind, tokens = before ++ token :: behind ∧ IsStridedName token behind := by
  induction tokens with
  | nil => simp [stridedNames]
  | cons first rest ih =>
    have places : (∃ before behind, first :: rest = before ++ token :: behind ∧
          IsStridedName token behind) ↔
        (token = first ∧ IsStridedName first rest) ∨
          ∃ before behind, rest = before ++ token :: behind ∧ IsStridedName token behind := by
      constructor
      · rintro ⟨_ | ⟨head, before⟩, behind, tokens_eq, strided⟩
        · cases tokens_eq
          exact .inl ⟨rfl, strided⟩
        · cases tokens_eq
          exact .inr ⟨before, behind, rfl, strided⟩
      · rintro (⟨rfl, strided⟩ | ⟨before, behind, rfl, strided⟩)
        · exact ⟨[], rest, rfl, strided⟩
        · exact ⟨first :: before, behind, rfl, strided⟩
    rw [places, ← ih, stridedNames]
    by_cases strided : IsStridedName first rest
    · rw [if_pos (isStridedName_iff.mpr strided), List.mem_cons]
      simp [strided]
    · rw [if_neg (mt isStridedName_iff.mp strided)]
      simp [strided]

theorem stridedNames_sublist (tokens : List Token) : (stridedNames tokens).Sublist tokens := by
  induction tokens with
  | nil => exact .slnil
  | cons first rest ih =>
    rw [stridedNames]
    split
    · exact ih.cons_cons first
    · exact ih.cons first

theorem withoutNumber_sublist (statement : List Token) :
    (withoutNumber statement).Sublist statement := by
  cases statement with
  | nil => exact .slnil
  | cons first rest =>
    rw [withoutNumber]
    split
    · exact List.sublist_cons_self first rest
    · exact List.Sublist.refl _

/-! ## Findings -/

/-- The names of the strided references in a statement. -/
def stridedIn (statement : List Token) : List Token :=
  if holdsBounds (withoutNumber statement) then [] else stridedNames (withoutNumber statement)

theorem sectionsIn_eq (statement : List Token) :
    sectionsIn statement = (stridedIn statement).map sectionFinding := by
  rw [sectionsIn, stridedIn, references]
  split <;> rfl

theorem stridedIn_sublist (statement : List Token) : (stridedIn statement).Sublist statement := by
  rw [stridedIn]
  split
  · exact List.nil_sublist statement
  · exact (stridedNames_sublist _).trans (withoutNumber_sublist statement)

theorem flatMap_sublist_flatten {α : Type} {pick : List α → List α}
    (picks : ∀ items, (pick items).Sublist items) (lists : List (List α)) :
    (lists.flatMap pick).Sublist lists.flatten := by
  induction lists with
  | nil => exact .slnil
  | cons items rest ih =>
    rw [List.flatMap_cons, List.flatten_cons]
    exact (picks items).append ih

/-- A statement that is judged: it declares nothing, and its first word is none of those that
keep bounds or selectors in brackets. -/
def IsJudged (statement : List Token) : Prop :=
  statement.head?.any (·.isAmong Vocabulary.boundsWords) = false ∧
    Statement.isDeclaration statement = false

theorem mem_stridedIn_iff {token : Token} {statement : List Token} :
    token ∈ stridedIn statement ↔ IsJudged (withoutNumber statement) ∧
      ∃ before behind, withoutNumber statement = before ++ token :: behind ∧
        IsStridedName token behind := by
  have isJudged_iff :
      IsJudged (withoutNumber statement) ↔ holdsBounds (withoutNumber statement) = false :=
    Bool.or_eq_false_iff.symm
  rw [← mem_stridedNames_iff, isJudged_iff, stridedIn]
  cases holdsBounds (withoutNumber statement) <;> simp

/-- In every source each name of a strided reference has one finding, at its place, and there
are no other findings.  A reference whose bracket closes is judged by what stands in it, whatever
reference it stands in itself. -/
theorem checkSections_ofLines (path : String) (lines : List String) :
    (∃ names : List Token,
      checkSections (.ofLines path lines) = names.map sectionFinding ∧
      (names.map Token.start).Nodup ∧
      ∀ token, token ∈ names ↔ ∃ statement ∈ (Tokenized.ofLines lines).statements,
        IsJudged (withoutNumber statement) ∧
          ∃ before behind, withoutNumber statement = before ++ token :: behind ∧
            IsStridedName token behind) ∧
      ∀ (token opening closing : Token) (inner rest : List Token), opening.isOp "(" = true →
        Balanced inner → closing.isClosing = true →
          (IsStridedName token (opening :: (inner ++ closing :: rest)) ↔
            token.kind = .identifier ∧ IsStridedList inner) := by
  let statements := (Tokenized.ofLines lines).statements
  have findings_eq : checkSections (.ofLines path lines) =
      (statements.flatMap stridedIn).map sectionFinding := by
    rw [checkSections_eq, List.map_flatMap]
    exact congrArg (statements.flatMap ·) (funext sectionsIn_eq)
  have places : (statements.flatMap stridedIn).Pairwise fun first second =>
      first.start ≠ second.start :=
    (Tokenized.pairwise_start_ne lines).sublist (flatMap_sublist_flatten stridedIn_sublist _)
  refine ⟨⟨_, findings_eq, List.pairwise_map.mpr places, fun token => ?_⟩,
    fun _ _ _ _ _ opens balanced closes => isStridedName_of_balanced opens balanced closes⟩
  simp only [List.mem_flatMap, mem_stridedIn_iff]
  rfl

/-- The rule finds a strided reference among the subscripts of another one. -/
theorem checkSections_ofLines_nested :
    let lines := ["x = a(n, c(k, :))"]
    let name : Token := ⟨.identifier, "c", 1, 10, 1, 10⟩
    ∃ names : List Token, checkSections (.ofLines "a.f90" lines) = names.map sectionFinding ∧
      (names.map Token.start).Nodup ∧ name ∈ names := by
  intro lines name
  let statement := (Tokenized.ofLines lines).statements.headD []
  let inner : List Token := [⟨.identifier, "k", 1, 12, 1, 12⟩, ⟨.operator, ",", 1, 13, 1, 13⟩,
    ⟨.operator, ":", 1, 15, 1, 15⟩]
  obtain ⟨⟨names, findings_eq, distinct, mem_iff⟩, judged_by_inner⟩ :=
    checkSections_ofLines "a.f90" lines
  refine ⟨names, findings_eq, distinct, (mem_iff name).mpr ⟨statement, by decide +kernel,
    ⟨by decide +kernel, by decide +kernel⟩, statement.take 6, ⟨.operator, "(", 1, 11, 1, 11⟩ ::
      (inner ++ ⟨.operator, ")", 1, 16, 1, 16⟩ :: statement.drop 12), by decide +kernel, ?_⟩⟩
  refine (judged_by_inner _ _ _ _ _ (by decide) (by decide) (by decide)).mpr ⟨rfl, ?_⟩
  exact ⟨_, Bracket.isListOf_items inner, isStrided_iff.mp (by decide +kernel)⟩

end Rule

end FortranStyle
