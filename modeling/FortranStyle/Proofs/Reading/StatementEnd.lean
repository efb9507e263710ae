import FortranStyle.Proofs.Reading.Line
import Mathlib.Data.List.Induction

/-!
# Where statements end

The tokens of a line tell by themselves whether a statement is open behind them:
it is when a code token comes after the last end-of-line token.  A line that is
complete and a line that fails both close the statement, and a line that is
suspended leaves open exactly what its progress says.

Tokens behind which no statement is open can be followed by any others: the
statements of both together are those of the first and then those of the second.
-/

namespace FortranStyle

/-- Whether a statement is open behind a token. -/
def Token.leavesOpen (isOpen : Bool) (token : Token) : Bool :=
  if token.kind.isSilent then isOpen else token.kind != .endOfLine

/-- Whether a statement is open behind some tokens. -/
def leavesOpen (isOpen : Bool) (tokens : List Token) : Bool :=
  tokens.foldl Token.leavesOpen isOpen

@[simp]
theorem leavesOpen_nil (isOpen : Bool) : leavesOpen isOpen [] = isOpen :=
  rfl

@[simp]
theorem leavesOpen_cons (isOpen : Bool) (token : Token) (rest : List Token) :
    leavesOpen isOpen (token :: rest) = leavesOpen (token.leavesOpen isOpen) rest :=
  rfl

@[simp]
theorem leavesOpen_append (isOpen : Bool) (first second : List Token) :
    leavesOpen isOpen (first ++ second) = leavesOpen (leavesOpen isOpen first) second :=
  List.foldl_append

/-- Whether the statement of a line that is continued has a token. -/
def Suspended.isOpen (pending : Option Suspended) : Bool :=
  pending.any (·.progress.statementOpen)

/-! ## Statements of adjoining tokens -/

namespace Tokenized

theorem splitAtEnds_ne_nil (tokens : List Token) : splitAtEnds tokens ≠ [] := by
  induction tokens with
  | nil => simp [splitAtEnds]
  | cons token rest ih =>
    unfold splitAtEnds
    split
    · simp
    · cases pieces : splitAtEnds rest with
      | nil => contradiction
      | cons piece more => simp

theorem splitAtEnds_map {f : Token → Token} (kind_eq : ∀ token, (f token).kind = token.kind)
    (tokens : List Token) :
    splitAtEnds (tokens.map f) = (splitAtEnds tokens).map (List.map f) := by
  induction tokens with
  | nil => rfl
  | cons token rest ih =>
    simp only [List.map_cons, splitAtEnds, kind_eq, ih]
    split
    · rfl
    · cases splitAtEnds rest <;> rfl

/-- Changing tokens without changing their kinds changes them in their
statements. -/
theorem statementsOf_map {f : Token → Token} (kind_eq : ∀ token, (f token).kind = token.kind)
    (tokens : List Token) :
    statementsOf (tokens.map f) = (statementsOf tokens).map (List.map f) := by
  have code : (fun token : Token => !token.kind.isSilent) ∘ f =
      fun token => !token.kind.isSilent := by
    funext token
    simp [kind_eq]
  have nonempty : (fun piece : List Token => !piece.isEmpty) ∘ List.map f =
      fun piece => !piece.isEmpty := by
    funext piece
    cases piece <;> rfl
  unfold statementsOf
  rw [List.filter_map, code, splitAtEnds_map kind_eq, List.filter_map, nonempty]

/-- An end-of-line token cuts a run in two. -/
theorem splitAtEnds_append_cons (first second : List Token) {token : Token}
    (ends : token.kind = .endOfLine) :
    splitAtEnds (first ++ token :: second) = splitAtEnds first ++ splitAtEnds second := by
  induction first with
  | nil => simp [splitAtEnds, ends]
  | cons other rest ih =>
    simp only [List.cons_append, splitAtEnds]
    split
    · simp [ih]
    · rw [ih]
      cases pieces : splitAtEnds rest with
      | nil => exact absurd pieces (splitAtEnds_ne_nil rest)
      | cons piece more => rfl

/-- Tokens that leave no statement open have no code token at all, or an
end-of-line token comes last among those that are not silent. -/
theorem filter_isSilent_of_leavesOpen {tokens : List Token}
    (closed : leavesOpen false tokens = false) :
    tokens.filter (!·.kind.isSilent) = [] ∨
      ∃ init last, tokens.filter (!·.kind.isSilent) = init ++ [last] ∧
        last.kind = .endOfLine := by
  induction tokens using List.reverseRecOn with
  | nil => exact .inl rfl
  | append_singleton init token ih =>
    simp only [leavesOpen_append, leavesOpen_cons, leavesOpen_nil, Token.leavesOpen] at closed
    cases silent : token.kind.isSilent with
    | true =>
      rw [silent, if_pos rfl] at closed
      simpa [List.filter_append, silent] using ih closed
    | false =>
      refine .inr ⟨init.filter (!·.kind.isSilent), token, ?_, ?_⟩
      · simp [List.filter_append, silent]
      · simpa [silent] using closed

/-- Behind tokens that leave no statement open, the statements start afresh. -/
theorem statementsOf_append {first second : List Token}
    (closed : leavesOpen false first = false) :
    statementsOf (first ++ second) = statementsOf first ++ statementsOf second := by
  unfold statementsOf
  rw [List.filter_append]
  rcases filter_isSilent_of_leavesOpen closed with none | ⟨init, last, code_eq, ends⟩
  · simp [none, splitAtEnds]
  · have whole := splitAtEnds_append_cons init (second.filter (!·.kind.isSilent)) ends
    have alone := splitAtEnds_append_cons init [] ends
    rw [code_eq, List.append_assoc, List.singleton_append, whole, alone]
    simp [splitAtEnds]

end Tokenized

/-! ## What the statements say -/

/-- What a token says, without its place. -/
def Token.face (token : Token) : TokenKind × String :=
  (token.kind, token.text)

namespace Tokenized

theorem flatten_splitAtEnds (tokens : List Token) :
    (splitAtEnds tokens).flatten = tokens.filter (·.kind ≠ .endOfLine) := by
  induction tokens with
  | nil => rfl
  | cons token rest ih =>
    unfold splitAtEnds
    split
    · rename_i ends
      rw [List.flatten_cons, List.nil_append, ih, List.filter_cons_of_neg (by simp [ends])]
    · rename_i goesOn
      rw [List.filter_cons_of_pos (by simp [goesOn]), ← ih]
      cases pieces : splitAtEnds rest with
      | nil => exact absurd pieces (splitAtEnds_ne_nil rest)
      | cons piece more => rfl

/-- The statements are the code tokens, cut in pieces. -/
theorem flatten_statementsOf (tokens : List Token) :
    (statementsOf tokens).flatten = tokens.filter Token.isCode := by
  unfold statementsOf
  rw [List.flatten_filter_not_isEmpty, flatten_splitAtEnds, List.filter_filter]
  apply List.filter_congr
  intro token _
  simp only [Token.isCode, TokenKind.isCode, Bool.and_comm]
  cases token.kind <;> rfl

/-- Statements say the same when the tokens that are not silent do. -/
theorem map_face_statementsOf {tokens tokens' : List Token}
    (same : (tokens.filter (!·.kind.isSilent)).map Token.face =
      (tokens'.filter (!·.kind.isSilent)).map Token.face) :
    (statementsOf tokens).map (List.map Token.face) =
      (statementsOf tokens').map (List.map Token.face) := by
  -- Statements are cut by kind, so tokens without places are cut in the same way.
  let bare (token : Token) : Token := ⟨token.kind, token.text, 0, 0, 0, 0⟩
  let unface (face : TokenKind × String) : Token := ⟨face.1, face.2, 0, 0, 0, 0⟩
  have bare_eq : ∀ tokens : List Token, tokens.map bare = (tokens.map Token.face).map unface := by
    intro tokens
    rw [List.map_map]
    rfl
  have faces_eq : ∀ tokens, (statementsOf tokens).map (List.map Token.face) =
      ((splitAtEnds ((tokens.filter (!·.kind.isSilent)).map bare)).filter (!·.isEmpty)).map
        (List.map Token.face) := by
    intro tokens
    have cut := statementsOf_map (f := bare) (fun _ => rfl) tokens
    have code : (fun token : Token => !token.kind.isSilent) ∘ bare =
        fun token => !token.kind.isSilent := rfl
    rw [statementsOf, List.filter_map, code] at cut
    have face_bare : List.map Token.face ∘ List.map bare = List.map Token.face := by
      funext piece
      exact List.map_map
    rw [cut, List.map_map, face_bare]
  rw [faces_eq, faces_eq, bare_eq, bare_eq, same]

end Tokenized

/-! ## What a line leaves open -/

@[simp]
theorem leavesOpen_close (progress : Progress) (mark : Char) (line column : Nat) :
    leavesOpen progress.statementOpen (progress.close mark line column) = false := by
  unfold Progress.close
  cases progress.statementOpen <;> rfl

/-- A lexeme is a code token. -/
theorem Lexeme.isCode_read? {depth : Nat} {cs : List Char} {lexeme : Lexeme}
    (read : Lexeme.read? depth cs = some lexeme) : lexeme.kind.isCode = true := by
  unfold Lexeme.read? at read
  cases cs with
  | nil => contradiction
  | cons c rest =>
    simp only at read
    split at read
    · obtain ⟨body, -, rfl⟩ := Option.map_eq_some_iff.mp read
      rfl
    split at read
    · cases read
      unfold nameKind
      split <;> rfl
    split at read
    · cases read
      rfl
    split at read
    · cases read
      rfl
    · obtain ⟨found, -, rfl⟩ := Option.map_eq_some_iff.mp read
      rfl

theorem leavesOpen_onLine_code {kind : TokenKind} (code : kind.isCode = true) (isOpen : Bool)
    (line column : Nat) (text : List Char) :
    (Token.onLine kind line column text).leavesOpen isOpen = true := by
  cases kind <;> first | rfl | contradiction

namespace Line

theorem leavesOpen_fail (progress : Progress) (cause : LexCause) (line column lineEnd : Nat) :
    leavesOpen progress.statementOpen (fail progress cause line column lineEnd).1 = false :=
  leavesOpen_close progress '\n' line lineEnd

theorem leavesOpen_afterMarker (line column : Nat) (progress : Progress) (cs : List Char) :
    leavesOpen progress.statementOpen (afterMarker line column progress cs).1 =
      Suspended.isOpen (afterMarker line column progress cs).2.pending := by
  rcases afterMarker_cases line column progress cs with
    read | ⟨place, rest, read⟩ | ⟨c, place, read⟩ | read
  all_goals rw [read]
  · rfl
  · rfl
  · exact leavesOpen_fail progress _ line _ _
  · exact leavesOpen_fail progress _ line _ _

theorem leavesOpen_carry (line column : Nat) (progress : Progress) (literal : OpenLiteral)
    (cs : List Char) :
    leavesOpen progress.statementOpen (carry line column progress literal cs).1 =
      Suspended.isOpen (carry line column progress literal cs).2.pending := by
  unfold carry
  cases carriedPart? cs with
  | some part => rfl
  | none => exact leavesOpen_fail progress _ line _ _

/-- The rest of a line leaves a statement open exactly when it is suspended in
one. -/
theorem leavesOpen_readRest (line column : Nat) (progress : Progress) (cs : List Char) :
    leavesOpen progress.statementOpen (readRest line column progress cs).1 =
      Suspended.isOpen (readRest line column progress cs).2.pending := by
  fun_induction readRest line column progress cs with
  | case1 column progress => exact leavesOpen_close progress '\n' line column
  | case2 column progress c rest gap ih => exact ih
  | case3 column progress rest =>
    exact leavesOpen_close progress '\n' line _
  | case4 column progress rest => exact leavesOpen_afterMarker line column progress rest
  | case5 column progress rest tokens ending read noGap noComment noMarker ih =>
    rw [read] at ih
    rw [leavesOpen_append, leavesOpen_close]
    exact ih
  | case6 column progress c rest noGap noComment noMarker noEnd lexeme read ih =>
    simp only [emit, leavesOpen_cons, leavesOpen_onLine_code (Lexeme.isCode_read? read)]
    exact ih
  | case7 column progress c rest => exact leavesOpen_carry line column progress _ (c :: rest)
  | case8 column progress c rest => exact leavesOpen_fail progress _ line column _

theorem leavesOpen_resume (line column : Nat) (rest : Suspended) (cs : List Char) :
    leavesOpen rest.progress.statementOpen (resume line column rest cs).1 =
      Suspended.isOpen (resume line column rest cs).2.pending := by
  obtain ⟨markerLine, markerColumn, progress, literal⟩ := rest
  cases literal with
  | none => exact leavesOpen_readRest line column progress cs
  | some literal =>
    simp only [resume, resumeLiteral]
    cases Lexeme.closingQuote? literal.quote cs with
    | none => exact leavesOpen_carry line column progress literal cs
    | some body => exact leavesOpen_readRest line _ ⟨true, progress.constructors⟩ _

/-- A line leaves a statement open exactly when it is suspended in one. -/
theorem leavesOpen_read (line : Nat) (pending : Option Suspended) (cs : List Char) :
    leavesOpen (Suspended.isOpen pending) (read line pending cs).1 =
      Suspended.isOpen (read line pending cs).2.pending := by
  cases silent : isSilent cs with
  | true =>
    rw [read_of_isSilent silent]
    have same : (LineEnd.unchanged pending).pending = pending := by
      cases pending <;> rfl
    rw [same]
    split <;> rfl
  | false =>
    cases pending with
    | none =>
      rw [read_none silent]
      split
      · rfl
      · exact leavesOpen_readRest line _ .fresh _
    | some rest =>
      by_cases marker : (cs.dropWhile Text.isGap).head? = some '&'
      · obtain ⟨after, body_eq⟩ := List.head?_eq_some_iff.mp marker
        rw [read_some_marker rest silent body_eq]
        exact leavesOpen_resume line _ rest after
      · rw [read_some rest silent marker]
        exact leavesOpen_resume line _ rest _

end Line

end FortranStyle
