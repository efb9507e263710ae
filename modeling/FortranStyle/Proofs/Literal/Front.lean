import FortranStyle.Proofs.Literal.Doubled

/-!
# Code in front of a literal

A literal opens behind code that could end its line, or behind gaps alone.  What
stands in front of it is read as it is read without it, but for the end of the
statement.  The one exception is code that ends in the quote of the literal: the two
quotes would be a doubled one.
-/

namespace FortranStyle.Line

variable {line column : Nat} {progress : Progress} {pending : Option Suspended} {quote : Char}
  {text front : List Char}

/-- What stands in front of a literal on its line: gaps, where no literal is open, or
code that could end the line, with no comment behind it. -/
inductive CodeInFront (line : Nat) (pending : Option Suspended) (front : List Char) : Prop
  | gaps (nothing : openLiteral? pending = none) (onlyGaps : ∀ c ∈ front, Text.isGap c = true)
  | code (filled : isSilent front = false) (complete : (read line pending front).2 = .complete)
      (onlyCode : ∀ token ∈ (read line pending front).1,
        token.kind ≠ .comment ∧ token.kind ≠ .directive)

/-- The tokens of a reading, but for a line feed at a place behind them. -/
def IsCodeOf (line place : Nat) (reading : Reading) (code : List Token) : Prop :=
  reading.1 = code ∨ reading.1 = code ++ [Token.statementEnd '\n' line place]

/-- A text is read with a quote behind it as it is read alone, and reading goes on at
the quote. -/
def ReadsOn (line place : Nat) (quote : Char) (alone : Reading) (followed : List Char → Reading) :
    Prop :=
  ∃ code progress, IsCodeOf line place alone code ∧
    ∀ after, followed after = prepend code (readRest line place progress (quote :: after))

namespace ReadsOn

variable {place : Nat} {alone : Reading} {followed : List Char → Reading}

theorem prepend (marks : List Token) (readsOn : ReadsOn line place quote alone followed) :
    ReadsOn line place quote (Line.prepend marks alone)
      (fun after => Line.prepend marks (followed after)) := by
  obtain ⟨code, progress, isCode, on⟩ := readsOn
  refine ⟨marks ++ code, progress, ?_, fun after => ?_⟩
  · rcases isCode with ends | feeds
    · exact .inl (congrArg (marks ++ ·) ends)
    · exact .inr ((congrArg (marks ++ ·) feeds).trans (List.append_assoc ..).symm)
  · dsimp only
    rw [on, prepend_prepend]

theorem congr {alone' : Reading} {followed' : List Char → Reading} (same : alone' = alone)
    (sameOn : ∀ after, followed' after = followed after)
    (readsOn : ReadsOn line place quote alone followed) :
    ReadsOn line place quote alone' followed' := by
  rwa [same, funext sameOn]

end ReadsOn

theorem isCodeOf_close (progress : Progress) (line place : Nat) (code : List Token)
    (ending : LineEnd) :
    IsCodeOf line place (code ++ progress.close '\n' line place, ending) code := by
  unfold Progress.close
  split
  · exact .inr rfl
  · exact .inl (List.append_nil code)

/-- Code that is complete is read as it is alone. -/
theorem readsOn_readRest (isQuote : Lexeme.isQuote quote = true)
    (complete : (readRest line column progress text).2 = .complete)
    (noComment : ∀ token ∈ (readRest line column progress text).1, token.kind ≠ .comment)
    (parts : PartsFrom text quote) :
    ReadsOn line (column + text.length) quote (readRest line column progress text)
      (fun after => readRest line column progress (text ++ quote :: after)) := by
  have whole : Whole (column + text.length) (readRest line column progress text) :=
    fun token member code =>
      .inl (token_of_readRest line column progress text token member code).2.2.2.2
  rw [← List.append_nil text] at complete noComment
  have noBracket : ¬Bracket text [] := fun bracket => nomatch bracket.2
  obtain ⟨tokens, progress', passes, on, -⟩ :=
    exists_passes_of_isApart text (.inr ⟨complete, noComment⟩) (by rwa [List.append_nil]) noBracket
  refine ⟨tokens, progress', ?_, fun after =>
    on quote after (Lexeme.isApart_of_isQuote isQuote) parts⟩
  rw [Passes, List.append_nil] at passes
  rw [passes, readRest]
  exact isCodeOf_close progress' line _ tokens .complete

/-- A literal that closes in a text is closed in front of a quote that is not its own. -/
theorem closingQuote?_append_quote {other : Char} {body : Nat}
    (isQuote : Lexeme.isQuote quote = true) (parts : PartsFrom text quote)
    (closed : Lexeme.closingQuote? other text = some body) (after : List Char) :
    Lexeme.closingQuote? other (text ++ quote :: after) = some body := by
  have inside := Lexeme.closingQuote?_lt closed
  rw [← List.append_nil text] at closed
  rcases Nat.lt_or_eq_of_le (Nat.succ_le_of_lt inside) with short | last
  · exact Lexeme.closingQuote?_replace_of_lt closed short
  · refine Lexeme.closingQuote?_replace ?_ closed inside
    rintro rfl
    have spelled := Lexeme.getElem?_closingQuote? closed
    rw [List.append_nil] at spelled
    apply parts isQuote
    rw [List.getLast?_eq_getElem?, ← last, Nat.succ_sub_one, spelled]

theorem readsOn_resumeLiteral {literal : OpenLiteral} (isQuote : Lexeme.isQuote quote = true)
    (complete : (resumeLiteral line column progress literal text).2 = .complete)
    (noComment : ∀ token ∈ (resumeLiteral line column progress literal text).1,
      token.kind ≠ .comment)
    (parts : PartsFrom text quote) :
    ReadsOn line (column + text.length) quote (resumeLiteral line column progress literal text)
      (fun after => resumeLiteral line column progress literal (text ++ quote :: after)) := by
  cases closed : Lexeme.closingQuote? literal.quote text with
  | none =>
    rw [resumeLiteral, closed] at complete
    dsimp only at complete
    unfold carry at complete
    split at complete <;> contradiction
  | some body =>
    have inside := Lexeme.closingQuote?_lt closed
    have alone : resumeLiteral line column progress literal (text ++ []) = _ :=
      resumeLiteral_append (by rwa [List.append_nil]) inside
    rw [List.append_nil, List.append_nil] at alone
    have followed (after : List Char) :
        resumeLiteral line column progress literal (text ++ quote :: after) = _ :=
      resumeLiteral_append (closingQuote?_append_quote isQuote parts closed after) inside
    have place_eq : column + text.length =
        column + body + 1 + (text.drop (body + 1)).length := by
      rw [List.length_drop]
      omega
    rw [alone] at complete noComment
    have readsOn := readsOn_readRest isQuote complete
      (fun token member => noComment token (List.mem_cons_of_mem _ member))
      (parts.of_suffix (List.drop_suffix (body + 1) text))
    rw [place_eq]
    exact (readsOn.prepend [_]).congr alone followed

theorem readsOn_resume {rest : Suspended} (isQuote : Lexeme.isQuote quote = true)
    (complete : (resume line column rest text).2 = .complete)
    (noComment : ∀ token ∈ (resume line column rest text).1, token.kind ≠ .comment)
    (parts : PartsFrom text quote) :
    ReadsOn line (column + text.length) quote (resume line column rest text)
      (fun after => resume line column rest (text ++ quote :: after)) := by
  obtain ⟨markerLine, markerColumn, progress, carried⟩ := rest
  cases carried with
  | none => exact readsOn_readRest isQuote complete noComment parts
  | some literal => exact readsOn_resumeLiteral isQuote complete noComment parts

/-- A quote makes no line of code silent. -/
theorem isSilent_quote (isQuote : Lexeme.isQuote quote = true) (code : isSilent text = false)
    (after : List Char) : isSilent (text ++ quote :: after) = false := by
  rw [← List.append_nil text] at code
  exact isSilent_replace code (Lexeme.isBlank_of_isQuote isQuote)
    (Lexeme.ne_of_isQuote isQuote (by decide)) after

/-- Behind gaps the literal is the first on its line. -/
theorem readsOn_gaps (isQuote : Lexeme.isQuote quote = true)
    (nothing : openLiteral? pending = none)
    (onlyGaps : ∀ c ∈ front, Text.isGap c = true) :
    ReadsOn line (front.length + 1) quote (read line pending front)
      (fun after => read line pending (front ++ quote :: after)) := by
  have filled := Lexeme.isBlank_of_isQuote isQuote
  have blank : ∀ c ∈ front, Text.isBlank c = true :=
    fun c member => Text.isBlank_of_isGap (onlyGaps c member)
  have alone : (read line pending front).1 = [] := by
    have trimmed := trim_eq_nil_iff.mpr blank
    rw [read_of_isSilent (by rw [isSilent, trimmed]; rfl), if_pos trimmed]
  have code (after : List Char) : isSilent (front ++ quote :: after) = false :=
    isSilent_eq_false_of_first onlyGaps filled (Lexeme.ne_of_isQuote isQuote (by decide)) after
  have behind (after : List Char) := leading_append_cons onlyGaps (isGap_eq_false filled) after
  have column_eq (after : List Char) :
      firstColumn (front ++ quote :: after) = front.length + 1 := by
    rw [firstColumn, (behind after).1]
  cases pending with
  | none =>
    refine ⟨[], .fresh, .inl alone, fun after => ?_⟩
    have noDirective : (Text.trim (front ++ quote :: after)).head? ≠ some '#' := by
      rw [head?_trim_append, trim_eq_nil_iff.mpr blank, head?_trim]
      simpa [filled] using Lexeme.ne_of_isQuote isQuote (by decide)
    dsimp only
    rw [read_none (code after), if_neg noDirective, column_eq, (behind after).2]
    rfl
  | some rest =>
    refine ⟨[], rest.progress, .inl alone, fun after => ?_⟩
    have noMarker : ((front ++ quote :: after).dropWhile Text.isGap).head? ≠ some '&' := by
      rw [(behind after).2, List.head?_cons]
      exact fun same => Lexeme.ne_of_isQuote isQuote (by decide) (Option.some.inj same)
    have noLiteral : rest.literal = none := nothing
    dsimp only
    rw [read_some rest (code after) noMarker, column_eq, (behind after).2, resume, noLiteral]
    rfl

/-- What stands in front of a literal is read as it is read without it. -/
theorem readsOn_read (isQuote : Lexeme.isQuote quote = true)
    (inFront : CodeInFront line pending front) (parts : PartsFrom front quote) :
    ReadsOn line (front.length + 1) quote (read line pending front)
      (fun after => read line pending (front ++ quote :: after)) := by
  cases inFront with
  | gaps nothing onlyGaps => exact readsOn_gaps isQuote nothing onlyGaps
  | code silent complete onlyCode =>
    have silentOn := isSilent_quote isQuote silent
    have filled := (isSilent_eq_false_iff.mp silent).1
    have behind (after : List Char) :=
      dropWhile_append_of_ne_nil (dropWhile_isGap_ne_nil filled) (quote :: after)
    have column_eq (after : List Char) :
        firstColumn (front ++ quote :: after) = firstColumn front := by
      rw [firstColumn, (behind after).2, firstColumn]
    have place_eq := firstColumn_add_length front
    have partsBehind : PartsFrom (front.dropWhile Text.isGap) quote :=
      parts.of_suffix (List.dropWhile_suffix Text.isGap)
    cases pending with
    | none =>
      rw [read_none silent] at complete onlyCode
      by_cases directive : (Text.trim front).head? = some '#'
      · rw [if_pos directive] at onlyCode
        exact absurd rfl (onlyCode _ (List.mem_singleton_self _)).2
      · rw [if_neg directive] at complete onlyCode
        have readsOn := readsOn_readRest isQuote complete
          (fun token member => (onlyCode token member).1) partsBehind
        rw [place_eq] at readsOn
        refine readsOn.congr ?_ fun after => ?_
        · rw [read_none silent, if_neg directive]
        · have noDirective : (Text.trim (front ++ quote :: after)).head? ≠ some '#' := by
            rw [← List.append_nil front] at directive
            exact head?_trim_replace directive (Lexeme.isBlank_of_isQuote isQuote)
              (Lexeme.ne_of_isQuote isQuote (by decide)) after
          rw [read_none (silentOn after), if_neg noDirective, column_eq, (behind after).1]
    | some rest =>
      by_cases marker : (front.dropWhile Text.isGap).head? = some '&'
      · obtain ⟨text, body_eq⟩ := List.head?_eq_some_iff.mp marker
        have body_eq' (after : List Char) : (front ++ quote :: after).dropWhile Text.isGap =
            '&' :: (text ++ quote :: after) := by
          rw [(behind after).1, body_eq, List.cons_append]
        rw [read_some_marker rest silent body_eq] at complete onlyCode
        rw [body_eq, List.length_cons, Nat.add_comm text.length, ← Nat.add_assoc] at place_eq
        rw [body_eq] at partsBehind
        have readsOn := readsOn_resume isQuote complete
          (fun token member => (onlyCode token (List.mem_cons_of_mem _ member)).1)
          (partsBehind.of_suffix (List.suffix_cons _ text))
        rw [place_eq] at readsOn
        refine (readsOn.prepend [Token.onLine .continuation line (firstColumn front) ['&']]).congr
          (read_some_marker rest silent body_eq) fun after => ?_
        rw [read_some_marker rest (silentOn after) (body_eq' after), column_eq]
        rfl
      · have markerOn (after : List Char) :
            ((front ++ quote :: after).dropWhile Text.isGap).head? ≠ some '&' := by
          rw [(behind after).1, List.head?_append_of_ne_nil _ (dropWhile_isGap_ne_nil filled)]
          exact marker
        rw [read_some rest silent marker] at complete onlyCode
        have readsOn := readsOn_resume isQuote complete
          (fun token member => (onlyCode token member).1) partsBehind
        rw [place_eq] at readsOn
        refine readsOn.congr (read_some rest silent marker) fun after => ?_
        rw [read_some rest (silentOn after) (markerOn after), column_eq, (behind after).1]

end FortranStyle.Line
