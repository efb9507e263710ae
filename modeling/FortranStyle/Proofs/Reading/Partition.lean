import FortranStyle.Proofs.Reading.Start

/-!
# Statements partition the code

The end of a statement is only read where a statement is open, and no statement is left open at
the end of a source.  So the code tokens of a source and the ends between them are its statements,
each with one end behind it.
-/

namespace FortranStyle

/-- Every end of a statement stands where a statement is open. -/
def ClosesOpen : Bool → List Token → Prop
  | _, [] => True
  | isOpen, token :: rest =>
      (token.kind = .endOfLine → isOpen = true) ∧ ClosesOpen (token.leavesOpen isOpen) rest

namespace ClosesOpen

variable {isOpen : Bool} {first second tokens : List Token} {token : Token}

/-- A token that ends no statement. -/
theorem cons (other : (token.kind == .endOfLine) = false)
    (rest : ClosesOpen (token.leavesOpen isOpen) tokens) : ClosesOpen isOpen (token :: tokens) :=
  ⟨fun ends => absurd ends (beq_eq_false_iff_ne.mp other), rest⟩

theorem append (front : ClosesOpen isOpen first)
    (back : ClosesOpen (leavesOpen isOpen first) second) :
    ClosesOpen isOpen (first ++ second) := by
  induction first generalizing isOpen with
  | nil => exact back
  | cons token rest ih => exact ⟨front.1, ih front.2 back⟩

/-- Silent tokens do not matter. -/
theorem filter_inStatement (closes : ClosesOpen isOpen tokens) :
    ClosesOpen isOpen (tokens.filter Token.inStatement) := by
  induction tokens generalizing isOpen with
  | nil => trivial
  | cons token rest ih =>
    cases inside : token.inStatement with
    | true =>
      rw [List.filter_cons_of_pos inside]
      exact ⟨closes.1, ih closes.2⟩
    | false =>
      have silent : token.kind.isSilent = true := by simpa [Token.inStatement] using inside
      have same : token.leavesOpen isOpen = isOpen := if_pos silent
      rw [List.filter_cons_of_neg (by simp [inside]), ← same]
      exact ih closes.2

theorem close (progress : Progress) (mark : Char) (line column : Nat) :
    ClosesOpen progress.statementOpen (progress.close mark line column) := by
  unfold Progress.close
  split
  · rename_i isOpen
    exact ⟨fun _ => isOpen, trivial⟩
  · trivial

end ClosesOpen

/-! ## Ends on a line -/

namespace Line

theorem closesOpen_afterMarker (line column : Nat) (progress : Progress) (cs : List Char) :
    ClosesOpen progress.statementOpen (afterMarker line column progress cs).1 := by
  rcases afterMarker_cases line column progress cs with
    read | ⟨place, rest, read⟩ | ⟨c, place, read⟩ | read
  all_goals rw [read]
  · exact .cons rfl trivial
  · exact .cons rfl (.cons rfl trivial)
  · exact .cons rfl (.close progress '\n' line _)
  · exact .close progress '\n' line _

theorem closesOpen_carry (line column : Nat) (progress : Progress) (literal : OpenLiteral)
    (cs : List Char) :
    ClosesOpen progress.statementOpen (carry line column progress literal cs).1 := by
  unfold carry
  split
  · exact .cons rfl trivial
  · exact .close progress '\n' line _

theorem closesOpen_readRest (line column : Nat) (progress : Progress) (cs : List Char) :
    ClosesOpen progress.statementOpen (readRest line column progress cs).1 := by
  fun_induction readRest line column progress cs with
  | case1 column progress => exact .close progress '\n' line column
  | case2 column progress c rest gap ih => exact ih
  | case3 column progress rest => exact .cons rfl (.close progress '\n' line _)
  | case4 column progress rest => exact closesOpen_afterMarker line column progress rest
  | case5 column progress rest tokens ending read noGap noComment noMarker ih =>
    rw [read] at ih
    refine .append (.close progress ';' line column) ?_
    rw [leavesOpen_close]
    exact ih
  | case6 column progress c rest noGap noComment noMarker noEnd lexeme read ih =>
    have code := Lexeme.isCode_read? read
    refine .cons (beq_eq_false_iff_ne.mpr ?_) ?_
    · intro ends
      change lexeme.kind = .endOfLine at ends
      rw [ends] at code
      contradiction
    · rw [leavesOpen_onLine_code code]
      exact ih
  | case7 column progress c rest => exact closesOpen_carry line column progress _ (c :: rest)
  | case8 column progress c rest => exact .close progress '\n' line _

theorem closesOpen_resume (line column : Nat) (rest : Suspended) (cs : List Char) :
    ClosesOpen rest.progress.statementOpen (resume line column rest cs).1 := by
  unfold resume
  cases rest.literal with
  | none => exact closesOpen_readRest line column rest.progress cs
  | some literal =>
    simp only [resumeLiteral]
    cases Lexeme.closingQuote? literal.quote cs with
    | none => exact closesOpen_carry line column rest.progress literal cs
    | some body =>
      exact .cons rfl (closesOpen_readRest line _ ⟨true, rest.progress.constructors⟩ _)

theorem closesOpen_read (line : Nat) (pending : Option Suspended) (cs : List Char) :
    ClosesOpen (Suspended.isOpen pending) (read line pending cs).1 := by
  cases silent : isSilent cs with
  | true =>
    rw [read_of_isSilent silent]
    dsimp only
    split
    · trivial
    · exact .cons rfl trivial
  | false =>
    cases pending with
    | none =>
      rw [read_none silent]
      split
      · exact .cons rfl trivial
      · exact closesOpen_readRest line _ .fresh _
    | some rest =>
      by_cases marker : (cs.dropWhile Text.isGap).head? = some '&'
      · obtain ⟨after, body_eq⟩ := List.head?_eq_some_iff.mp marker
        rw [read_some_marker rest silent body_eq]
        exact .cons rfl (closesOpen_resume line _ rest after)
      · rw [read_some rest silent marker]
        exact closesOpen_resume line _ rest _

end Line

/-! ## Ends of a source -/

namespace Tokenized

theorem closesOpen_readLines (line : Nat) (pending : Option Suspended)
    (lines : List (List Char)) :
    ClosesOpen (Suspended.isOpen pending) (readLines line pending lines).tokens := by
  induction lines generalizing line pending with
  | nil =>
    cases pending with
    | none => trivial
    | some rest => exact .close rest.progress '\n' rest.line _
  | cons cs rest ih =>
    rw [readLines, Part.tokens_append]
    refine .append (Line.closesOpen_read line pending cs) ?_
    change ClosesOpen (leavesOpen _ (Line.read line pending cs).1) _
    rw [Line.leavesOpen_read]
    exact ih _ _

/-- The end of a source leaves no statement open. -/
theorem leavesOpen_readLines (line : Nat) (pending : Option Suspended)
    (lines : List (List Char)) :
    leavesOpen (Suspended.isOpen pending) (readLines line pending lines).tokens = false := by
  rw [readLines_eq, Part.tokens_append, leavesOpen_append, leavesOpen_linesPart]
  cases pendingBehind line pending lines with
  | none => rfl
  | some rest => exact leavesOpen_close rest.progress '\n' rest.line _

/-! ## Statements and their ends -/

/-- The ends of statements in a run of tokens. -/
def endsOf (tokens : List Token) : List Token :=
  tokens.filter (·.kind == .endOfLine)

/-- Runs with one token behind each. -/
def withEnds (runs : List (List Token)) (ends : List Token) : List Token :=
  (List.zipWith (fun run last => run ++ [last]) runs ends).flatten

/-- A run in which every end closes an open statement, and that leaves none open, is cut at its
ends into pieces.  Only the first piece can be empty, when a statement is open in front. -/
theorem splitAtEnds_of_closesOpen {isOpen : Bool} {tokens : List Token}
    (loud : ∀ token ∈ tokens, token.inStatement = true) (closes : ClosesOpen isOpen tokens)
    (closed : leavesOpen isOpen tokens = false) :
    ∃ pieces, splitAtEnds tokens = pieces ++ [[]] ∧ pieces.length = (endsOf tokens).length ∧
      tokens = withEnds pieces (endsOf tokens) ∧
      ∀ piece ∈ pieces.drop isOpen.toNat, piece ≠ [] := by
  induction tokens generalizing isOpen with
  | nil =>
    rw [leavesOpen_nil] at closed
    exact ⟨[], rfl, rfl, rfl, by simp⟩
  | cons token rest ih =>
    rw [List.forall_mem_cons] at loud
    have behind : token.leavesOpen isOpen = (token.kind != .endOfLine) :=
      if_neg (by simpa [Token.inStatement] using loud.1)
    obtain ⟨opens, closes⟩ := closes
    rw [behind] at closes
    rw [leavesOpen_cons, behind] at closed
    obtain ⟨pieces, pieces_eq, length_eq, rest_eq, filled⟩ := ih loud.2 closes closed
    by_cases ends : token.kind = .endOfLine
    · rw [ends] at filled
      have ends_eq : endsOf (token :: rest) = token :: endsOf rest :=
        List.filter_cons_of_pos (by simp [ends])
      refine ⟨[] :: pieces, ?_, ?_, ?_, ?_⟩
      · rw [splitAtEnds, if_pos ends, pieces_eq]
        rfl
      · rw [ends_eq, List.length_cons, List.length_cons, length_eq]
      · rw [ends_eq, withEnds, List.zipWith_cons_cons, List.flatten_cons, ← withEnds, ← rest_eq]
        rfl
      · rw [opens ends]
        exact filled
    · have goesOn : (token.kind != .endOfLine) = true := bne_iff_ne.mpr ends
      rw [goesOn] at filled closed
      have ends_eq : endsOf (token :: rest) = endsOf rest :=
        List.filter_cons_of_neg (by simp [ends])
      cases pieces with
      | nil =>
        -- Without an end behind it the statement of the token would stay open.
        rw [rest_eq] at closed
        contradiction
      | cons piece pieces =>
        obtain ⟨last, ends', ends'_eq⟩ := List.exists_cons_of_length_eq_add_one length_eq.symm
        refine ⟨(token :: piece) :: pieces, ?_, ?_, ?_, ?_⟩
        · rw [splitAtEnds, if_neg ends, pieces_eq]
          rfl
        · rw [ends_eq, ← length_eq]
          rfl
        · rw [ends_eq, ends'_eq, withEnds, List.zipWith_cons_cons, List.flatten_cons,
            List.cons_append, List.cons_append]
          rw [ends'_eq, withEnds, List.zipWith_cons_cons, List.flatten_cons] at rest_eq
          rw [← rest_eq]
        · intro other member
          rcases List.mem_cons.mp (List.mem_of_mem_drop member) with rfl | later
          · exact List.cons_ne_nil _ _
          · exact filled other later

/-- The code tokens of such a run, and its ends, are its statements with one end behind each. -/
theorem statementsOf_of_closesOpen {tokens : List Token} (closes : ClosesOpen false tokens)
    (closed : leavesOpen false tokens = false) :
    (statementsOf tokens).length = (endsOf tokens).length ∧
      tokens.filter Token.inStatement = withEnds (statementsOf tokens) (endsOf tokens) := by
  have ends_eq : endsOf (tokens.filter Token.inStatement) = endsOf tokens := by
    rw [endsOf, endsOf, List.filter_filter]
    refine List.filter_congr fun token _ => ?_
    rw [Bool.and_eq_left_iff_imp, beq_iff_eq]
    intro ends
    rw [Token.inStatement, ends]
    rfl
  obtain ⟨pieces, pieces_eq, length_eq, tokens_eq, filled⟩ := splitAtEnds_of_closesOpen
    (fun token member => (List.mem_filter.mp member).2) closes.filter_inStatement
    ((leavesOpen_filter_inStatement false tokens).trans closed)
  have statements_eq : statementsOf tokens = pieces := by
    change (splitAtEnds (tokens.filter Token.inStatement)).filter (!·.isEmpty) = pieces
    rw [pieces_eq, List.filter_append, List.filter_eq_self.mpr]
    · exact List.append_nil pieces
    · intro piece member
      simpa using filled piece member
  rw [statements_eq, ← ends_eq]
  exact ⟨length_eq, tokens_eq⟩

end Tokenized

end FortranStyle
