import FortranStyle.Proofs.Reading.Faithful
import FortranStyle.Proofs.Reading.Pending
import FortranStyle.Proofs.Reading.Resumption

/-!
# Where statements start

A statement starts behind the end of the statement before it.  That end is a
semicolon, or the end of a line, and then no code comes behind it on its line.  So
the first code token of a line starts a statement unless one is open in front of the
line, and if one is, a statement can start on the line behind a semicolon only.
-/

namespace FortranStyle

/-! ## Ends of statements at the end of a line -/

/-- The token ends a statement, and is no semicolon. -/
def Token.IsLineFeed (token : Token) : Prop :=
  token.kind = .endOfLine ∧ token.text ≠ ";"

namespace Line

/-- Where a line feed ends a statement on a line, no code follows on the line, and
nothing is left pending. -/
structure FeedsLast (line : Nat) (reading : Reading) : Prop where
  last : reading.1.Pairwise fun first second => first.IsLineFeed → second.isCode = false
  settled : ∀ token ∈ reading.1, token.IsLineFeed →
    token.line = line ∧ reading.2.pending = none

namespace FeedsLast

variable {line column : Nat} {progress : Progress} {token : Token} {reading : Reading}
  {tokens : List Token} {ending : LineEnd}

/-- A line without line feeds. -/
theorem of_forall (none : ∀ token ∈ tokens, ¬token.IsLineFeed) :
    FeedsLast line (tokens, ending) where
  last := List.pairwise_iff_forall_sublist.mpr fun {first _} sub feeds =>
    absurd feeds (none first (sub.mem List.mem_cons_self))
  settled token member feeds := absurd feeds (none token member)

theorem append (none : ∀ token ∈ tokens, ¬token.IsLineFeed)
    (later : FeedsLast line reading) : FeedsLast line (tokens ++ reading.1, reading.2) where
  last := by
    refine List.pairwise_append.mpr ⟨?_, later.last, ?_⟩
    · exact (of_forall none : FeedsLast line (tokens, .complete)).last
    · exact fun first member _ _ feeds => absurd feeds (none first member)
  settled token member feeds := by
    rcases List.mem_append.mp member with here | later'
    · exact absurd feeds (none token here)
    · exact later.settled token later' feeds

theorem emit (noFeed : ¬token.IsLineFeed) (later : FeedsLast line reading) :
    FeedsLast line (Line.emit token reading) :=
  append (List.forall_mem_singleton.mpr noFeed) later

theorem close (progress : Progress) (column : Nat) (settled : ending.pending = none) :
    FeedsLast line (progress.close '\n' line column, ending) where
  last := by
    unfold Progress.close
    split
    · exact List.pairwise_singleton _ _
    · exact .nil
  settled token member _ := ⟨mem_close member ▸ rfl, settled⟩

end FeedsLast

/-- Code is no line feed, and neither is a silent token. -/
theorem not_isLineFeed_onLine {kind : TokenKind} (other : kind ≠ .endOfLine) (line column : Nat)
    (text : List Char) : ¬(Token.onLine kind line column text).IsLineFeed :=
  fun feeds => other feeds.1

theorem feedsLast_fail (progress : Progress) (cause : LexCause) (line column lineEnd : Nat) :
    FeedsLast line (fail progress cause line column lineEnd) :=
  .close progress lineEnd rfl

theorem feedsLast_afterMarker (line column : Nat) (progress : Progress) (cs : List Char) :
    FeedsLast line (afterMarker line column progress cs) := by
  have marker : ¬(Token.onLine .continuation line column ['&']).IsLineFeed :=
    not_isLineFeed_onLine (by decide) line column _
  rcases afterMarker_cases line column progress cs with
    read | ⟨place, rest, read⟩ | ⟨c, place, read⟩ | read
  all_goals rw [read]
  · exact .of_forall (List.forall_mem_singleton.mpr marker)
  · refine .of_forall (List.forall_mem_cons.mpr ⟨marker, List.forall_mem_singleton.mpr ?_⟩)
    exact not_isLineFeed_onLine (by decide) line place _
  · exact .emit marker (feedsLast_fail progress _ line _ _)
  · exact feedsLast_fail progress _ line _ _

theorem feedsLast_carry (line column : Nat) (progress : Progress) (literal : OpenLiteral)
    (cs : List Char) : FeedsLast line (carry line column progress literal cs) := by
  unfold carry
  cases carriedPart? cs with
  | some part =>
    exact .of_forall (List.forall_mem_singleton.mpr (not_isLineFeed_onLine (by decide) line _ _))
  | none => exact feedsLast_fail progress _ line _ _

theorem feedsLast_readRest (line column : Nat) (progress : Progress) (cs : List Char) :
    FeedsLast line (readRest line column progress cs) := by
  fun_induction readRest line column progress cs with
  | case1 column progress => exact .close progress column rfl
  | case2 column progress c rest gap ih => exact ih
  | case3 column progress rest =>
    exact .emit (not_isLineFeed_onLine (by decide) line column _) (.close progress _ rfl)
  | case4 column progress rest => exact feedsLast_afterMarker line column progress rest
  | case5 column progress rest tokens ending read noGap noComment noMarker ih =>
    rw [read] at ih
    refine .append (fun token member feeds => ?_) ih
    rw [mem_close member] at feeds
    exact feeds.2 rfl
  | case6 column progress c rest noGap noComment noMarker noEnd lexeme read ih =>
    refine .emit (not_isLineFeed_onLine ?_ line column _) ih
    intro ends
    have code := Lexeme.isCode_read? read
    rw [ends] at code
    contradiction
  | case7 column progress c rest => exact feedsLast_carry line column progress _ (c :: rest)
  | case8 column progress c rest => exact feedsLast_fail progress _ line column _

theorem feedsLast_resumeLiteral (line column : Nat) (progress : Progress) (literal : OpenLiteral)
    (cs : List Char) : FeedsLast line (resumeLiteral line column progress literal cs) := by
  unfold resumeLiteral
  cases Lexeme.closingQuote? literal.quote cs with
  | some body => exact .emit (fun feeds => nomatch feeds.1) (feedsLast_readRest line _ _ _)
  | none => exact feedsLast_carry line column progress literal cs

/-- Behind a line feed on a line comes no code, and the line is settled. -/
theorem feedsLast_read (line : Nat) (pending : Option Suspended) (cs : List Char) :
    FeedsLast line (read line pending cs) := by
  obtain ⟨marks, reading, read_eq, silent, body⟩ := body_read line pending cs
  rw [read_eq]
  refine .append (fun token member feeds => ?_) ?_
  · have shown := silent token member
    rw [Token.inStatement, feeds.1] at shown
    contradiction
  · cases body with
    | unchanged => exact .of_forall (List.forall_mem_nil _)
    | directive => exact .of_forall (List.forall_mem_nil _)
    | rest column progress cs => exact feedsLast_readRest line column progress cs
    | literal column progress literal cs =>
      exact feedsLast_resumeLiteral line column progress literal cs

end Line

namespace Tokenized

/-- Code behind a line feed stands on a later line. -/
theorem pairwise_isLineFeed_linesPart {line : Nat} {pending : Option Suspended}
    (lines : List (List Char)) :
    (linesPart line pending lines).tokens.Pairwise fun first second =>
      first.IsLineFeed → second.isCode = true → first.line < second.line := by
  induction lines generalizing line pending with
  | nil => exact .nil
  | cons cs rest ih =>
    have feeds := Line.feedsLast_read line pending cs
    rw [linesPart, Part.tokens_append, List.pairwise_append]
    refine ⟨feeds.last.imp fun noCode feed code => ?_, ih, ?_⟩
    · rw [noCode feed] at code
      contradiction
    · intro first here second later feed code
      obtain ⟨line_eq, settled⟩ := feeds.settled first here feed
      rw [settled] at later
      obtain ⟨-, -, below | ⟨literal, carried, -⟩⟩ :=
        token_of_linesPart (nothingAbove (line + 1)) rest second later code
      · exact line_eq ▸ below
      · contradiction

theorem pairwise_isLineFeed (source : List String) :
    (ofLines source).tokens.Pairwise fun first second =>
      first.IsLineFeed → second.isCode = true → first.line < second.line := by
  change (readLines 1 none (source.map lineText)).tokens.Pairwise _
  rw [readLines_eq, Part.tokens_append, List.pairwise_append]
  refine ⟨pairwise_isLineFeed_linesPart _, ?_, ?_⟩
  · generalize pendingBehind 1 none (source.map lineText) = pending
    refine List.pairwise_iff_forall_sublist.mpr fun {first second} sub _ code => ?_
    rw [isCode_danglingPart pending second (sub.mem (by simp))] at code
    contradiction
  · intro first _ second dangling _ code
    rw [isCode_danglingPart _ second dangling] at code
    contradiction

/-! ## First tokens of statements -/

theorem head?_head_splitAtEnds (tokens : List Token) {first : Token} {piece : List Token}
    (head : (splitAtEnds tokens).head? = some piece) (starts : piece.head? = some first) :
    tokens.head? = some first ∧ first.kind ≠ .endOfLine := by
  cases tokens with
  | nil =>
    cases head
    contradiction
  | cons token rest =>
    unfold splitAtEnds at head
    split at head
    · cases head
      contradiction
    · rename_i goesOn
      cases pieces : splitAtEnds rest with
      | nil => exact absurd pieces (splitAtEnds_ne_nil rest)
      | cons other more =>
        rw [pieces] at head
        cases head
        cases starts
        exact ⟨rfl, goesOn⟩

/-- A piece that is not the first starts right behind an end. -/
theorem exists_of_mem_tail_splitAtEnds {tokens piece : List Token} {first : Token}
    (member : piece ∈ (splitAtEnds tokens).tail) (starts : piece.head? = some first) :
    ∃ before mark after, tokens = before ++ mark :: first :: after ∧ mark.kind = .endOfLine ∧
      first.kind ≠ .endOfLine := by
  induction tokens with
  | nil => contradiction
  | cons token rest ih =>
    unfold splitAtEnds at member
    split at member
    · rename_i ends
      cases pieces : splitAtEnds rest with
      | nil => exact absurd pieces (splitAtEnds_ne_nil rest)
      | cons head tail =>
        rw [List.tail_cons, pieces, List.mem_cons] at member
        rcases member with rfl | later
        · obtain ⟨head_eq, goesOn⟩ := head?_head_splitAtEnds rest
            (congrArg List.head? pieces) starts
          obtain ⟨after, rfl⟩ := List.head?_eq_some_iff.mp head_eq
          exact ⟨[], token, after, rfl, ends, goesOn⟩
        · obtain ⟨before, mark, after, rfl, ends', goesOn⟩ := ih (by rw [pieces]; exact later)
          exact ⟨token :: before, mark, after, rfl, ends', goesOn⟩
    · rw [List.tail_modifyHead] at member
      obtain ⟨before, mark, after, rfl, ends, goesOn⟩ := ih member
      exact ⟨token :: before, mark, after, rfl, ends, goesOn⟩

/-- The first tokens of statements are the tokens right behind the end of a
statement, and the first of all; silent tokens do not count. -/
theorem exists_head?_statementsOf_iff {tokens : List Token} {first : Token} :
    (∃ statement ∈ statementsOf tokens, statement.head? = some first) ↔
      ∃ before after, tokens.filter Token.inStatement = before ++ first :: after ∧
        first.kind ≠ .endOfLine ∧ ∀ mark ∈ before.getLast?, mark.kind = .endOfLine := by
  constructor
  · rintro ⟨statement, member, starts⟩
    have listed : statement ∈ splitAtEnds (tokens.filter Token.inStatement) :=
      (List.mem_filter.mp member).1
    cases pieces : splitAtEnds (tokens.filter Token.inStatement) with
    | nil => exact absurd pieces (splitAtEnds_ne_nil _)
    | cons head tail =>
      rw [pieces, List.mem_cons] at listed
      rcases listed with rfl | later
      · obtain ⟨head_eq, goesOn⟩ := head?_head_splitAtEnds _ (congrArg List.head? pieces) starts
        obtain ⟨after, tokens_eq⟩ := List.head?_eq_some_iff.mp head_eq
        exact ⟨[], after, tokens_eq, goesOn, nofun⟩
      · obtain ⟨before, mark, after, tokens_eq, ends, goesOn⟩ :=
          exists_of_mem_tail_splitAtEnds (by rw [pieces]; exact later) starts
        refine ⟨before ++ [mark], after, by simp [tokens_eq], goesOn, fun last last_eq => ?_⟩
        rw [List.getLast?_concat] at last_eq
        cases last_eq
        exact ends
  · rintro ⟨before, after, tokens_eq, goesOn, ended⟩
    have piece : ∃ statement ∈ splitAtEnds (first :: after), statement.head? = some first := by
      unfold splitAtEnds
      rw [if_neg goesOn]
      cases pieces : splitAtEnds after with
      | nil => exact absurd pieces (splitAtEnds_ne_nil after)
      | cons head tail => exact ⟨first :: head, List.mem_cons_self, rfl⟩
    obtain ⟨statement, listed, starts⟩ := piece
    have whole : statement ∈ splitAtEnds (tokens.filter Token.inStatement) := by
      rw [tokens_eq]
      rcases List.eq_nil_or_concat' before with rfl | ⟨init, mark, rfl⟩
      · exact listed
      · have ends := ended mark (by simp)
        rw [List.append_assoc, List.singleton_append, splitAtEnds_append_cons init _ ends]
        exact List.mem_append_right _ listed
    refine ⟨statement, List.mem_filter.mpr ⟨whole, ?_⟩, starts⟩
    cases statement with
    | nil => contradiction
    | cons token rest => rfl

/-- The first token of a statement is code. -/
theorem isCode_of_head?_eq {source : Tokenized} {statement : List Token} {first : Token}
    (member : statement ∈ source.statements) (starts : statement.head? = some first) :
    first ∈ source.tokens ∧ first.isCode = true := by
  have within : first ∈ (statementsOf source.tokens).flatten :=
    List.mem_flatten.mpr ⟨statement, member, List.mem_of_head? starts⟩
  rw [flatten_statementsOf] at within
  exact List.mem_filter.mp within

/-! ## What is open in front of a line -/

theorem leavesOpen_filter_inStatement (isOpen : Bool) (tokens : List Token) :
    leavesOpen isOpen (tokens.filter Token.inStatement) = leavesOpen isOpen tokens := by
  induction tokens generalizing isOpen with
  | nil => rfl
  | cons token rest ih =>
    cases silent : token.kind.isSilent with
    | true =>
      rw [List.filter_cons_of_neg (by simp [Token.inStatement, silent]), ih, leavesOpen_cons,
        Token.leavesOpen, if_pos silent]
    | false =>
      rw [List.filter_cons_of_pos (by simp [Token.inStatement, silent]), leavesOpen_cons, ih,
        leavesOpen_cons]

/-- Whether a statement has begun above a line and does not end there. -/
def isOpenAbove (source : Tokenized) (line : Nat) : Bool :=
  leavesOpen false (source.tokens.filter (·.line < line))

/-- Whether a semicolon ends a statement on a line. -/
def hasSemicolon (source : Tokenized) (line : Nat) : Bool :=
  source.tokens.any fun token =>
    token.kind = .endOfLine && token.line = line && token.text = ";"

/-- The tokens of the statements up to one of them, and which of them stand above
the line of that one. -/
theorem filter_line_lt {source : List String} {before after : List Token} {token : Token}
    (split : (ofLines source).tokens.filter Token.inStatement = before ++ token :: after) :
    (∀ other ∈ before, other.line ≤ token.line ∧ other.Precedes token) ∧
      (ofLines source).isOpenAbove token.line =
        leavesOpen false (before.filter (·.line < token.line)) := by
  have ordered := pairwise_inStatement source
  rw [split, List.pairwise_append, List.pairwise_cons] at ordered
  obtain ⟨-, ⟨below, -⟩, above⟩ := ordered
  have lines_le {first second : Token} (early : Before first.start second.start) :
      first.line ≤ second.line := by
    unfold Before Token.start at early
    omega
  constructor
  · intro other member
    obtain ⟨early, precedes⟩ := above other member token List.mem_cons_self
    exact ⟨lines_le early, precedes⟩
  · rw [isOpenAbove, ← leavesOpen_filter_inStatement, List.filter_filter]
    simp only [Bool.and_comm (Token.inStatement _)]
    rw [← List.filter_filter, split, List.filter_append]
    have nothing : (token :: after).filter (·.line < token.line) = [] := by
      rw [List.filter_eq_nil_iff, List.forall_mem_cons]
      refine ⟨by simp, fun other member => ?_⟩
      have le := lines_le (below other member).1
      simpa using le
    rw [nothing, List.append_nil]

/-- When a statement is open in front of a line and no semicolon stands on it, no
statement starts on the line. -/
theorem line_ne_of_isOpenAbove {source : List String} {line : Nat}
    (isOpen : (ofLines source).isOpenAbove line = true)
    (noSemicolon : (ofLines source).hasSemicolon line = false) {statement : List Token}
    (member : statement ∈ (ofLines source).statements) {first : Token}
    (starts : statement.head? = some first) : first.line ≠ line := by
  rintro rfl
  obtain ⟨before, after, split, goesOn, ended⟩ :=
    exists_head?_statementsOf_iff.mp ⟨statement, member, starts⟩
  obtain ⟨above, isOpen_eq⟩ := filter_line_lt split
  rw [isOpen_eq] at isOpen
  rcases List.eq_nil_or_concat' before with rfl | ⟨init, mark, rfl⟩
  · contradiction
  have ends : mark.kind = .endOfLine := ended mark (by simp)
  have le := (above mark (by simp)).1
  have listed {token : Token} (within : token ∈ init ++ [mark] ++ first :: after) :
      token ∈ (ofLines source).tokens ∧ token.inStatement = true := by
    rw [← split] at within
    exact List.mem_filter.mp within
  -- The end of the statement before stands on the line: it would close what is open above.
  have same : mark.line = first.line := by
    by_contra different
    rw [List.filter_append, List.filter_cons_of_pos (by simp; omega), List.filter_nil,
      leavesOpen_append] at isOpen
    simp [Token.leavesOpen, ends, TokenKind.isSilent] at isOpen
  -- It is no semicolon, so no code follows on the line.
  have feeds : mark.IsLineFeed := by
    refine ⟨ends, fun semicolon => ?_⟩
    have found : (ofLines source).hasSemicolon first.line = true := by
      rw [hasSemicolon, List.any_eq_true]
      exact ⟨mark, (listed (by simp)).1, by simp [ends, same, semicolon]⟩
    rw [noSemicolon] at found
    contradiction
  have code := (isCode_of_head?_eq member starts).2
  have apart := (pairwise_isLineFeed source).filter Token.inStatement
  rw [split, List.append_assoc, List.singleton_append, List.pairwise_append] at apart
  have lt := (List.pairwise_cons.mp apart.2.1).1 first List.mem_cons_self feeds code
  omega

/-- Nothing is open in front of a line in front of which nothing is pending. -/
theorem isOpenAbove_eq_false_of_settled {source : List String} {above below : List (List Char)}
    (split : source.map lineText = above ++ below)
    (settled : pendingBehind 1 none above = none) :
    (ofLines source).isOpenAbove (1 + above.length) = false := by
  have tokens_eq : (ofLines source).tokens = (linesPart 1 none above).tokens ++
      (readLines (1 + above.length) none below).tokens := by
    change (readLines 1 none (source.map lineText)).tokens = _
    rw [split, readLines_append, settled, Part.tokens_append]
  obtain ⟨stop, later⟩ := inOrder_readLines_none (1 + above.length) below
  have kept : ∀ token ∈ (linesPart 1 none above).tokens.filter Token.inStatement,
      token.line < 1 + above.length := by
    intro token member
    obtain ⟨-, lt, start⟩ :=
      endLine_of_linesPart (nothingAbove 1) above token (List.mem_filter.mp member).1
    omega
  have dropped : ∀ token ∈ (readLines (1 + above.length) none below).tokens.filter
      Token.inStatement, ¬token.line < 1 + above.length := by
    intro token member
    obtain ⟨listed, inside⟩ := List.mem_filter.mp member
    obtain ⟨behind, -⟩ := later.mem listed inside
    rcases behind with lt | ⟨line_eq, -⟩
    · exact Nat.lt_asymm lt
    · exact fun lt => lt.ne line_eq.symm
  have above_eq := List.filter_eq_self.mpr fun token member => decide_eq_true (kept token member)
  have below_eq := List.filter_eq_nil_iff.mpr fun token member isAbove =>
    dropped token member (of_decide_eq_true isAbove)
  rw [isOpenAbove, ← leavesOpen_filter_inStatement, List.filter_comm, tokens_eq,
    List.filter_append, List.filter_append, above_eq, below_eq, List.append_nil,
    leavesOpen_filter_inStatement]
  have closed := leavesOpen_linesPart 1 none above
  rw [settled] at closed
  exact closed

/-- No code starts on a silent line. -/
theorem line_ne_of_isSilent {source : List String} {above below : List (List Char)}
    {cs : List Char} (split : source.map lineText = above ++ cs :: below)
    (silent : Line.isSilent cs = true) {token : Token} (member : token ∈ (ofLines source).tokens)
    (code : token.isCode = true) : token.line ≠ 1 + above.length := by
  intro line_eq
  have tokens_eq : (ofLines source).tokens = (linesPart 1 none above).tokens ++
      ((Line.read (1 + above.length) (pendingBehind 1 none above) cs).1 ++
        (readLines (1 + above.length + 1)
          (Line.read (1 + above.length) (pendingBehind 1 none above) cs).2.pending
          below).tokens) := by
    change (readLines 1 none (source.map lineText)).tokens = _
    rw [split, readLines_append, Part.tokens_append]
    rfl
  rw [Line.read_of_isSilent silent, Line.pending_unchanged] at tokens_eq
  rw [tokens_eq, List.mem_append, List.mem_append] at member
  rcases member with early | here | late
  · obtain ⟨-, lt, start⟩ := endLine_of_linesPart (nothingAbove 1) above token early
    omega
  · dsimp only at here
    split at here
    · contradiction
    · rw [List.mem_singleton.mp here] at code
      contradiction
  · rw [readLines_eq, Part.tokens_append, List.mem_append] at late
    have carried := above_linesPart (nothingAbove 1) above
    rcases late with late | dangling
    · obtain ⟨-, -, below | ⟨literal, found, start_eq⟩⟩ := token_of_linesPart
        (fun literal found => ⟨Nat.lt_succ_of_lt (carried literal found).line_lt,
          (carried literal found).isQuote⟩) below token late code
      · omega
      · have literal_line : token.line = literal.line := congrArg Prod.fst start_eq
        have lt := (carried literal found).line_lt
        omega
    · rw [isCode_danglingPart _ token dangling] at code
      contradiction

/-- Nothing is open in front of a line on which code starts and that continues no
earlier line. -/
theorem isOpenAbove_eq_false {source : List String} {token : Token}
    (member : token ∈ (ofLines source).tokens) (code : token.isCode = true)
    (fresh : token.line ∉ (ofLines source).continuedLines) :
    (ofLines source).isOpenAbove token.line = false := by
  have within : 1 ≤ token.line ∧ token.line ≤ (source.map lineText).length := by
    change token ∈ (readLines 1 none (source.map lineText)).tokens at member
    rw [readLines_eq, Part.tokens_append, List.mem_append] at member
    rcases member with inLines | dangling
    · obtain ⟨-, lt, start⟩ := endLine_of_linesPart (nothingAbove 1) _ token inLines
      obtain ⟨-, -, low | ⟨literal, carried, -⟩⟩ :=
        token_of_linesPart (nothingAbove 1) _ token inLines code
      · omega
      · contradiction
    · rw [isCode_danglingPart _ token dangling] at code
      contradiction
  obtain ⟨n, line_eq⟩ := Nat.exists_eq_add_of_le within.1
  have inside : n < (source.map lineText).length := by omega
  have length_eq : ((source.map lineText).take n).length = n :=
    List.length_take_of_le (Nat.le_of_lt inside)
  have split : source.map lineText = (source.map lineText).take n ++
      (source.map lineText)[n] :: (source.map lineText).drop (n + 1) := by
    rw [List.getElem_cons_drop, List.take_append_drop]
  cases pending_eq : pendingBehind 1 none ((source.map lineText).take n) with
  | none =>
    have closed := isOpenAbove_eq_false_of_settled split pending_eq
    rwa [length_eq, ← line_eq] at closed
  | some rest =>
    -- The line is silent, or else it continues the line that is pending.
    have silent : Line.isSilent (source.map lineText)[n] = true := by
      by_contra codeLine
      rw [Bool.not_eq_true] at codeLine
      refine fresh ((mem_continuedLines_iff source token.line).mpr
        ⟨n, by omega, ⟨_, List.getElem?_eq_getElem inside, codeLine⟩, rest, ?_⟩)
      exact (pendingBehind_take_eq_some_iff (Nat.le_of_lt inside)).mp pending_eq
    exact absurd (by rw [length_eq, line_eq]) (line_ne_of_isSilent split silent member code)

/-- When nothing is open in front of a line, its first code token starts a
statement. -/
theorem exists_head?_of_not_isOpenAbove {source : List String} {line : Nat}
    (closed : (ofLines source).isOpenAbove line = false) {token : Token}
    (first : (ofLines source).tokens.find? (fun token => token.isCode && token.line == line) =
      some token) :
    ∃ statement ∈ (ofLines source).statements, statement.head? = some token := by
  rw [List.find?_eq_some_iff_append] at first
  obtain ⟨found, front, behind, tokens_eq, others⟩ := first
  obtain ⟨code, line_eq⟩ := (Bool.and_eq_true _ _).mp found
  rw [beq_iff_eq] at line_eq
  subst line_eq
  have inside := Token.inStatement_of_isCode code
  have split : (ofLines source).tokens.filter Token.inStatement =
      front.filter Token.inStatement ++ token :: behind.filter Token.inStatement := by
    rw [tokens_eq, List.filter_append, List.filter_cons_of_pos inside]
  refine exists_head?_statementsOf_iff.mpr ⟨_, _, split, ?_, fun last last_eq => ?_⟩
  · intro ends
    rw [Token.isCode, ends] at code
    contradiction
  · by_contra goesOn
    obtain ⟨init, front_eq⟩ := List.getLast?_eq_some_iff.mp last_eq
    have member : last ∈ front.filter Token.inStatement := by simp [front_eq]
    obtain ⟨listed, lastInside⟩ := List.mem_filter.mp member
    obtain ⟨above, isOpen_eq⟩ := filter_line_lt split
    -- The token in front is code on an earlier line, so its statement is open.
    have le := (above last member).1
    have different : last.line ≠ token.line := by
      have other := others last listed
      have lastCode : last.isCode = true := by
        rw [Token.isCode, TokenKind.isCode, Bool.and_eq_true]
        exact ⟨lastInside, bne_iff_ne.mpr goesOn⟩
      simpa [lastCode] using other
    rw [isOpen_eq, front_eq, List.filter_append, List.filter_cons_of_pos (by simp; omega),
      List.filter_nil, leavesOpen_append, leavesOpen_cons, leavesOpen_nil,
      Token.leavesOpen] at closed
    rw [Token.inStatement, Bool.not_eq_true'] at lastInside
    simp [lastInside, goesOn] at closed

end Tokenized

end FortranStyle
