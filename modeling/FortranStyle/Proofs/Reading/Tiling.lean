import FortranStyle.Proofs.Reading.Order
import Mathlib.Data.List.DropRight

/-!
# Tilings of a line

The tokens of a line lie on it side by side.  A line that is read to its end,
without a part of a literal that goes over lines, is tiled: between its tokens
stand only gap characters and semicolons.  Of any other line the tokens still
are parts, except for a literal that has come over from an earlier line.

That is one relation between the rest of a line and the tokens read of it, which
grows with the reading from right to left.  What it says of single tokens and
single characters follows by induction on it.
-/

namespace FortranStyle

namespace Token

/-- The token is the part of a line from its first column to its last. -/
structure IsPartOf (token : Token) (line : Nat) (text : List Char) : Prop where
  line_eq : token.line = line
  endLine_eq : token.endLine = line
  column_pos : 1 ≤ token.column
  upright : token.column ≤ token.endColumn
  endColumn_le : token.endColumn ≤ text.length
  text_eq : token.text.toList =
    (text.drop (token.column - 1)).take (token.endColumn + 1 - token.column)

/-- A place lies between the first character of a token and its last. -/
def Spans (token : Token) (place : Nat × Nat) : Prop :=
  NotBehind token.start place ∧ NotBehind place token.stop

instance (first second : Nat × Nat) : Decidable (NotBehind first second) :=
  inferInstanceAs (Decidable (_ ∨ _))

instance (token : Token) (place : Nat × Nat) : Decidable (token.Spans place) :=
  inferInstanceAs (Decidable (_ ∧ _))

theorem spans_iff (token : Token) {line column : Nat} (endLine_eq : token.endLine = line)
    (line_eq : token.line = line) :
    token.Spans (line, column) ↔ token.column ≤ column ∧ column ≤ token.endColumn := by
  unfold Spans NotBehind start stop
  omega

theorem spans_onLine_iff {kind : TokenKind} {line column place : Nat} {text : List Char} :
    (onLine kind line column text).Spans (line, place) ↔
      column ≤ place ∧ place ≤ column + text.length - 1 :=
  (onLine kind line column text).spans_iff rfl rfl

end Token

namespace Line

/-- The tokens that are read of the rest of a line, `column` being the place of
its first character.  When the line is read as a whole, nothing is left at its
end, and no part of a literal that goes over lines stands in it. -/
inductive Tiles (line : Nat) (whole : Prop) : Nat → List Char → List Token → Prop
  | done (column : Nat) (cs : List Char) (nothing : whole → cs = []) :
      Tiles line whole column cs []
  | lineEnd (progress : Progress) (column place : Nat) (cs : List Char)
      (place_eq : place = column + cs.length) (nothing : whole → cs = []) :
      Tiles line whole column cs (progress.close '\n' line place)
  | gap (column : Nat) (c : Char) (rest : List Char) (tokens : List Token)
      (isGap : Text.isGap c = true) (later : Tiles line whole (column + 1) rest tokens) :
      Tiles line whole column (c :: rest) tokens
  | semicolon (progress : Progress) (column : Nat) (rest : List Char) (tokens : List Token)
      (later : Tiles line whole (column + 1) rest tokens) :
      Tiles line whole column (';' :: rest) (progress.close ';' line column ++ tokens)
  | piece (kind : TokenKind) (column tail : Nat) (c : Char) (rest : List Char)
      (tokens : List Token) (within : tail ≤ rest.length)
      (later : Tiles line whole (column + 1 + tail) (rest.drop tail) tokens) :
      Tiles line whole column (c :: rest)
        (Token.onLine kind line column (c :: rest.take tail) :: tokens)
  | cut (column : Nat) (part rest : List Char) (tokens : List Token) (cutting : ¬whole)
      (later : Tiles line whole (column + part.length) rest tokens) :
      Tiles line whole column (part ++ rest) tokens
  | literal (column : Nat) (cs : List Char) (token : Token) (tokens : List Token)
      (cutting : ¬whole) (string : token.kind = .string) (line_lt : token.line < line)
      (endLine_eq : token.endLine = line) (later : Tiles line whole column cs tokens) :
      Tiles line whole column cs (token :: tokens)

namespace Tiles

variable {line column : Nat} {whole : Prop} {cs : List Char} {tokens : List Token}

/-! ## Building a tiling -/

theorem gaps (later : Tiles line whole (column + Lexeme.leading Text.isGap cs)
    (cs.dropWhile Text.isGap) tokens) : Tiles line whole column cs tokens := by
  induction cs generalizing column with
  | nil => exact later
  | cons c rest ih =>
    cases isGap : Text.isGap c with
    | true =>
      rw [Lexeme.leading_cons_of_pos isGap, List.dropWhile_cons_of_pos isGap,
        ← Nat.add_assoc] at later
      exact .gap column c rest tokens isGap (ih (Nat.add_right_comm .. ▸ later))
    | false =>
      rw [Lexeme.leading_cons_of_neg isGap, List.dropWhile_cons_of_neg (by simp [isGap])] at later
      exact later

/-- A token of one character. -/
theorem single (kind : TokenKind) (c : Char)
    (later : Tiles line whole (column + 1) cs tokens) :
    Tiles line whole column (c :: cs) (Token.onLine kind line column [c] :: tokens) :=
  .piece kind column 0 c cs tokens (Nat.zero_le _) later

/-- A token that takes up what is left of the line. -/
theorem last (kind : TokenKind) (c : Char)
    (later : Tiles line whole (column + 1 + cs.length) [] tokens) :
    Tiles line whole column (c :: cs) (Token.onLine kind line column (c :: cs) :: tokens) := by
  have piece := Tiles.piece kind column cs.length c cs tokens (Nat.le_refl _)
    (List.drop_length ▸ later)
  rwa [List.take_length] at piece

/-! ## What a tiling says of its tokens -/

/-- Every token ends on the line, and one that starts above it is a literal. -/
theorem lines (tiles : Tiles line whole column cs tokens) :
    ∀ token ∈ tokens,
      token.endLine = line ∧ (token.line = line ∨ token.kind = .string ∧ token.line < line) := by
  have ofClose (progress : Progress) (mark : Char) (place : Nat) :
      ∀ token ∈ progress.close mark line place,
        token.endLine = line ∧ (token.line = line ∨ token.kind = .string ∧ token.line < line) := by
    intro token member
    rw [mem_close member]
    exact ⟨rfl, .inl rfl⟩
  induction tiles with
  | done => exact List.forall_mem_nil _
  | lineEnd progress column place => exact ofClose progress '\n' place
  | gap column c rest tokens isGap later ih => exact ih
  | semicolon progress column rest tokens later ih =>
    exact List.forall_mem_append.mpr ⟨ofClose progress ';' column, ih⟩
  | piece kind column tail c rest tokens within later ih =>
    exact List.forall_mem_cons.mpr ⟨⟨rfl, .inl rfl⟩, ih⟩
  | cut column part rest tokens cutting later ih => exact ih
  | literal column cs token tokens cutting string line_lt endLine_eq later ih =>
    exact List.forall_mem_cons.mpr ⟨⟨endLine_eq, .inr ⟨string, line_lt⟩⟩, ih⟩

/-- A token that starts on the line and ends no statement is a part of it. -/
theorem isPartOf (tiles : Tiles line whole column cs tokens) (front : List Char)
    (column_eq : column = front.length + 1) :
    ∀ token ∈ tokens, token.line = line → token.kind ≠ .endOfLine →
      token.IsPartOf line (front ++ cs) := by
  induction tiles generalizing front with
  | done => exact List.forall_mem_nil _
  | lineEnd progress column place =>
    intro token member _ noEnd
    exact absurd (mem_close member ▸ rfl) noEnd
  | gap column c rest tokens isGap later ih =>
    have rest_part := ih (front ++ [c]) (by simp [column_eq])
    rwa [List.append_assoc] at rest_part
  | semicolon progress column rest tokens later ih =>
    have rest_part := ih (front ++ [';']) (by simp [column_eq])
    rw [List.append_assoc] at rest_part
    refine List.forall_mem_append.mpr ⟨?_, rest_part⟩
    intro token member _ noEnd
    exact absurd (mem_close member ▸ rfl) noEnd
  | piece kind column tail c rest tokens within later ih =>
    have rest_part := ih (front ++ c :: rest.take tail)
      (by simp [column_eq]; omega)
    rw [List.append_assoc, List.cons_append, List.take_append_drop] at rest_part
    refine List.forall_mem_cons.mpr ⟨?_, rest_part⟩
    intro _ _
    subst column_eq
    have length_eq : (c :: rest.take tail).length = tail + 1 := by
      rw [List.length_cons, List.length_take, Nat.min_eq_left within]
    refine ⟨rfl, rfl, Nat.le_add_left _ _, ?_, ?_, ?_⟩
    · simp only [Token.onLine, length_eq]
      omega
    · simp only [Token.onLine, length_eq, List.length_append, List.length_cons]
      omega
    · have taken : front.length + 1 + (tail + 1) - 1 + 1 - (front.length + 1) = tail + 1 := by
        omega
      simp only [Token.onLine, length_eq, String.toList_ofList, Nat.add_sub_cancel, taken,
        List.drop_left, List.take_succ_cons]
  | cut column part rest tokens cutting later ih =>
    have rest_part := ih (front ++ part) (by simp [column_eq]; omega)
    rwa [List.append_assoc] at rest_part
  | literal column cs token tokens cutting string line_lt endLine_eq later ih =>
    refine List.forall_mem_cons.mpr ⟨?_, ih front column_eq⟩
    intro line_eq
    exact absurd line_eq (Nat.ne_of_lt line_lt)

/-! ## What a tiling says of the characters of a whole line -/

/-- The tokens of a whole line stand on it, from its first column on. -/
theorem column_le (all : whole) (tiles : Tiles line whole column cs tokens) :
    ∀ token ∈ tokens, token.line = line ∧ column ≤ token.column := by
  induction tiles with
  | done => exact List.forall_mem_nil _
  | lineEnd progress column place cs place_eq =>
    intro token member
    rw [mem_close member, place_eq]
    exact ⟨rfl, Nat.le_add_right _ _⟩
  | gap column c rest tokens isGap later ih =>
    exact fun token member => ⟨(ih token member).1, Nat.le_of_succ_le (ih token member).2⟩
  | semicolon progress column rest tokens later ih =>
    refine List.forall_mem_append.mpr ⟨?_, ?_⟩
    · intro token member
      rw [mem_close member]
      exact ⟨rfl, Nat.le_refl _⟩
    · exact fun token member => ⟨(ih token member).1, Nat.le_of_succ_le (ih token member).2⟩
  | piece kind column tail c rest tokens within later ih =>
    refine List.forall_mem_cons.mpr ⟨⟨rfl, Nat.le_refl _⟩, ?_⟩
    intro token member
    have behind := (ih token member).2
    exact ⟨(ih token member).1, by omega⟩
  | cut column part rest tokens cutting => exact absurd all cutting
  | literal column cs token tokens cutting => exact absurd all cutting

/-- No token reaches in front of a tiling. -/
theorem filter_spans_eq_nil (all : whole) (tiles : Tiles line whole column cs tokens)
    (place : Nat) (early : place < column) :
    tokens.filter (fun token => token.Spans (line, place)) = [] := by
  rw [List.filter_eq_nil_iff]
  intro token member
  obtain ⟨line_eq, column_le⟩ := tiles.column_le all token member
  rw [decide_eq_true_iff, token.spans_iff (tiles.lines token member).1 line_eq]
  omega

/-- Every character of a whole line is a gap character, a semicolon, or lies in
exactly one token. -/
theorem exists_spans (all : whole) (tiles : Tiles line whole column cs tokens)
    {k place : Nat} (place_eq : place = column + k) {c : Char} (found : cs[k]? = some c) :
    Text.isGap c = true ∨ c = ';' ∨
      ∃ token, tokens.filter (fun token => token.Spans (line, place)) = [token] := by
  induction tiles generalizing k with
  | done column cs nothing =>
    rw [nothing all] at found
    contradiction
  | lineEnd progress column lineEnd cs lineEnd_eq nothing =>
    rw [nothing all] at found
    contradiction
  | gap column d rest tokens isGap later ih =>
    cases k with
    | zero =>
      cases found
      exact .inl isGap
    | succ k =>
      exact ih (by omega) found
  | semicolon progress column rest tokens later ih =>
    cases k with
    | zero =>
      cases found
      exact .inr (.inl rfl)
    | succ k =>
      have apart : ¬(Token.statementEnd ';' line column).Spans (line, place) := by
        rw [Token.statementEnd, Token.spans_onLine_iff, List.length_singleton]
        omega
      have beside : (progress.close ';' line column).filter
          (fun token => token.Spans (line, place)) = [] := by
        rw [List.filter_eq_nil_iff]
        intro token member
        rw [mem_close member, decide_eq_true_iff]
        exact apart
      rw [List.filter_append, beside, List.nil_append]
      exact ih (by omega) found
  | piece kind column tail d rest tokens within later ih =>
    have length_eq : (d :: rest.take tail).length = tail + 1 := by
      rw [List.length_cons, List.length_take, Nat.min_eq_left within]
    have spans : (Token.onLine kind line column (d :: rest.take tail)).Spans (line, place) ↔
        k ≤ tail := by
      rw [Token.spans_onLine_iff, length_eq]
      omega
    by_cases inside : k ≤ tail
    · have rest_nil := later.filter_spans_eq_nil all place (by omega)
      rw [List.filter_cons_of_pos (by simpa using spans.mpr inside), rest_nil]
      exact .inr (.inr ⟨_, rfl⟩)
    · obtain ⟨behind, rfl⟩ := Nat.exists_eq_add_of_lt (Nat.lt_of_not_le inside)
      rw [List.filter_cons_of_neg (by simpa using spans.not.mpr inside)]
      exact @ih behind (by omega) (by rwa [List.getElem?_drop])
  | cut column part rest tokens cutting => exact absurd all cutting
  | literal column cs token tokens cutting => exact absurd all cutting

end Tiles

/-! ## What is read is tiled -/

/-- What carries a literal over ends in a marker. -/
theorem exists_of_carriedPart? {cs part : List Char} (found : carriedPart? cs = some part) :
    ∃ blanks, cs = part ++ '&' :: blanks := by
  unfold carriedPart? at found
  dsimp only at found
  split at found
  · rename_i last
    cases found
    obtain ⟨blanks, cs_eq⟩ : Text.trimEnd cs <+: cs := List.rdropWhile_prefix Text.isBlank cs
    have marker := List.dropLast_append_getLast? '&' last
    exact ⟨blanks, by rw [List.append_cons, marker, cs_eq]⟩
  · contradiction

variable {whole : Prop}

theorem tiles_carry {line column : Nat} {progress : Progress} {literal : OpenLiteral}
    (cs : List Char) (cutting : ¬whole) :
    Tiles line whole column cs (carry line column progress literal cs).1 := by
  unfold carry
  cases found : carriedPart? cs with
  | some part =>
    obtain ⟨blanks, rfl⟩ := exists_of_carriedPart? found
    have behind : Tiles line whole (column + part.length + 1) blanks [] :=
      .done _ blanks (absurd · cutting)
    exact .cut column part _ _ cutting (.single .continuation '&' behind)
  | none => exact .lineEnd progress column _ cs rfl (absurd · cutting)

theorem tiles_afterMarker (line column : Nat) (progress : Progress) (cs : List Char)
    (settled : whole → (afterMarker line column progress cs).2.errors = []) :
    Tiles line whole column ('&' :: cs) (afterMarker line column progress cs).1 := by
  revert settled
  unfold afterMarker
  dsimp only
  rw [drop_leading]
  split
  · have gone (nothing : cs.dropWhile Text.isGap = []) (tokens : List Token)
        (later : Tiles line whole (column + 1 + Lexeme.leading Text.isGap cs) [] tokens) :
        Tiles line whole (column + 1) cs tokens := .gaps (nothing ▸ later)
    cases dropped : cs.dropWhile Text.isGap with
    | nil =>
      intro settled
      exact .single .continuation '&' (gone dropped [] (.done _ [] fun _ => rfl))
    | cons c rest =>
      dsimp only
      split
      · intro settled
        have comment : Tiles line whole (column + 1 + Lexeme.leading Text.isGap cs) (c :: rest)
            [Token.onLine .comment line (column + 1 + Lexeme.leading Text.isGap cs) (c :: rest)] :=
          .last .comment c (.done _ [] fun _ => rfl)
        exact .single .continuation '&' (.gaps (dropped ▸ comment))
      · intro settled
        have cutting : ¬whole := fun all => List.cons_ne_nil _ _ (settled all)
        exact .single .continuation '&'
          (.lineEnd progress (column + 1) _ cs rfl (absurd · cutting))
  · intro settled
    have cutting : ¬whole := fun all => List.cons_ne_nil _ _ (settled all)
    exact .lineEnd progress column _ ('&' :: cs) (by rw [List.length_cons]; omega)
      (absurd · cutting)

/-- A literal that has no end on its line fails there or is carried over. -/
theorem failed_or_carried (line column : Nat) (progress : Progress) (literal : OpenLiteral)
    (cs : List Char) :
    (carry line column progress literal cs).2.errors ≠ [] ∨
      openLiteral? (carry line column progress literal cs).2.pending ≠ none := by
  unfold carry
  cases carriedPart? cs with
  | some part => exact .inr (Option.some_ne_none _)
  | none => exact .inl (List.cons_ne_nil _ _)

/-- The rest of a line is tiled. -/
theorem tiles_readRest (line column : Nat) (progress : Progress) (cs : List Char)
    (settled : whole → (readRest line column progress cs).2.errors = [] ∧
      openLiteral? (readRest line column progress cs).2.pending = none) :
    Tiles line whole column cs (readRest line column progress cs).1 := by
  fun_induction readRest line column progress cs with
  | case1 column progress => exact .lineEnd progress column column [] rfl fun _ => rfl
  | case2 column progress c rest gap ih => exact .gap column c rest _ gap (ih settled)
  | case3 column progress rest =>
    exact .last .comment '!' (.lineEnd progress _ _ [] rfl fun _ => rfl)
  | case4 column progress rest =>
    exact tiles_afterMarker line column progress rest fun all => (settled all).1
  | case5 column progress rest tokens ending read noGap noComment noMarker ih =>
    rw [read] at ih
    exact .semicolon progress column rest tokens (ih settled)
  | case6 column progress c rest noGap noComment noMarker noEnd lexeme read ih =>
    have within := Lexeme.tail_lt_length read
    exact .piece lexeme.kind column lexeme.tail c rest _ (Nat.le_of_lt_succ within) (ih settled)
  | case7 column progress c rest =>
    have cutting : ¬whole := by
      intro all
      obtain ⟨noError, nothing⟩ := settled all
      rcases failed_or_carried line column progress ⟨c, line, column, []⟩ (c :: rest) with
        failed | carried
      · exact failed noError
      · exact carried nothing
    exact tiles_carry (c :: rest) cutting
  | case8 column progress c rest =>
    have cutting : ¬whole := fun all => List.cons_ne_nil _ _ (settled all).1
    exact .lineEnd progress column _ (c :: rest) (by rw [List.length_cons]; omega)
      (absurd · cutting)

theorem tiles_resumeLiteral {line : Nat} (column : Nat) (progress : Progress)
    {literal : OpenLiteral} (cs : List Char) (line_lt : literal.line < line) (cutting : ¬whole) :
    Tiles line whole column cs (resumeLiteral line column progress literal cs).1 := by
  unfold resumeLiteral
  cases closed : Lexeme.closingQuote? literal.quote cs with
  | none => exact tiles_carry cs cutting
  | some body =>
    have inside := Lexeme.closingQuote?_lt closed
    have rest : Tiles line whole (column + body + 1) (cs.drop (body + 1)) _ :=
      tiles_readRest line _ ⟨true, progress.constructors⟩ _ (absurd · cutting)
    have length_eq : column + (cs.take (body + 1)).length = column + body + 1 := by
      rw [List.length_take]
      omega
    rw [← length_eq] at rest
    have part := Tiles.cut column (cs.take (body + 1)) (cs.drop (body + 1)) _ cutting rest
    rw [List.take_append_drop, length_eq] at part
    exact .literal column cs _ _ cutting rfl line_lt rfl part

theorem tiles_resume {line : Nat} (column : Nat) (rest : Suspended) (cs : List Char)
    (above : ∀ literal ∈ rest.literal, literal.line < line)
    (settled : whole → rest.literal = none ∧ (resume line column rest cs).2.errors = [] ∧
      openLiteral? (resume line column rest cs).2.pending = none) :
    Tiles line whole column cs (resume line column rest cs).1 := by
  revert settled
  unfold resume
  cases carried : rest.literal with
  | none =>
    intro settled
    exact tiles_readRest line column rest.progress cs fun all => (settled all).2
  | some literal =>
    intro settled
    have cutting : ¬whole := fun all => Option.some_ne_none _ (settled all).1
    exact tiles_resumeLiteral column rest.progress cs (above literal carried) cutting

/-- A line holds no part of a literal that goes over lines: it is silent, or no
literal is carried over to it or from it. -/
def HoldsNoPart (line : Nat) (pending : Option Suspended) (cs : List Char) : Prop :=
  isSilent cs = false →
    openLiteral? pending = none ∧ openLiteral? (read line pending cs).2.pending = none

/-- A line is tiled.  It is read as a whole when it is not blank, has no error,
and holds no part of a literal that goes over lines. -/
theorem tiles_read {line : Nat} {pending : Option Suspended} (cs : List Char)
    (above : ∀ literal ∈ openLiteral? pending, literal.line < line)
    (settled : whole → Text.trim cs ≠ [] ∧ (read line pending cs).2.errors = [] ∧
      HoldsNoPart line pending cs) :
    Tiles line whole 1 cs (read line pending cs).1 := by
  have first {tokens : List Token}
      (later : Tiles line whole (firstColumn cs) (cs.dropWhile Text.isGap) tokens) :
      Tiles line whole 1 cs tokens := .gaps (Nat.add_comm 1 _ ▸ later)
  have body (kind : TokenKind) (filled : Text.trim cs ≠ []) :
      Tiles line whole 1 cs [Token.onLine kind line (firstColumn cs)
        (cs.dropWhile Text.isGap)] := by
    obtain ⟨c, rest, body_eq⟩ := List.exists_cons_of_ne_nil (dropWhile_isGap_ne_nil filled)
    exact first (body_eq ▸ .last kind c (.done _ [] fun _ => rfl))
  cases silent : isSilent cs with
  | true =>
    rw [read_of_isSilent silent]
    dsimp only
    split
    · rename_i blank
      exact .done 1 cs fun all => absurd blank (settled all).1
    · rename_i filled
      exact body .comment filled
  | false =>
    have filled := (isSilent_eq_false_iff.mp silent).1
    have settled' : whole → (read line pending cs).2.errors = [] ∧ openLiteral? pending = none ∧
        openLiteral? (read line pending cs).2.pending = none :=
      fun all => ⟨(settled all).2.1, (settled all).2.2 silent⟩
    cases pending with
    | none =>
      rw [read_none silent] at settled' ⊢
      split
      · exact body .directive filled
      · rename_i noDirective
        rw [if_neg noDirective] at settled'
        exact first (tiles_readRest line _ .fresh _ fun all =>
          ⟨(settled' all).1, (settled' all).2.2⟩)
    | some rest =>
      by_cases marker : (cs.dropWhile Text.isGap).head? = some '&'
      · obtain ⟨after, body_eq⟩ := List.head?_eq_some_iff.mp marker
        rw [read_some_marker rest silent body_eq] at settled' ⊢
        have later := tiles_resume (firstColumn cs + 1) rest after above
          fun all => ⟨(settled' all).2.1, (settled' all).1, (settled' all).2.2⟩
        exact first (body_eq ▸ .single .continuation '&' later)
      · rw [read_some rest silent marker] at settled' ⊢
        exact first (tiles_resume (firstColumn cs) rest _ above
          fun all => ⟨(settled' all).2.1, (settled' all).1, (settled' all).2.2⟩)

end Line

end FortranStyle
