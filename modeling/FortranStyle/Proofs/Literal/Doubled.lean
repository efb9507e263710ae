import FortranStyle.Proofs.Reading.Cut
import FortranStyle.Proofs.Reading.Tiling

/-!
# Doubled quotes

A quote that belongs to the text of a literal is written twice.  A text written so
closes no literal, and every text is one up to the first quote without its double.
A literal that opens on a line is read behind its quote like one that is carried
over to the line with nothing but its quote.
-/

namespace FortranStyle

variable {quote : Char} {text cs : List Char}

namespace Lexeme

/-- A text as it is written in a literal: every quote in it is doubled. -/
def doubled (quote : Char) (text : List Char) : List Char :=
  text.flatMap fun c => if c = quote then [c, c] else [c]

theorem doubled_append (quote : Char) (first second : List Char) :
    doubled quote (first ++ second) = doubled quote first ++ doubled quote second :=
  List.flatMap_append

theorem doubled_cons_self (quote : Char) (text : List Char) :
    doubled quote (quote :: text) = quote :: quote :: doubled quote text := by
  simp [doubled]

theorem doubled_cons_of_ne {c : Char} (other : c ≠ quote) (text : List Char) :
    doubled quote (c :: text) = c :: doubled quote text := by
  simp [doubled, other]

/-! ## The closing quote -/

theorem closingQuote?_cons_self_self (quote : Char) (cs : List Char) :
    closingQuote? quote (quote :: quote :: cs) = (closingQuote? quote cs).map (· + 2) := by
  simp [closingQuote?]

theorem closingQuote?_cons_of_ne {c : Char} (other : c ≠ quote) (cs : List Char) :
    closingQuote? quote (c :: cs) = (closingQuote? quote cs).map (· + 1) := by
  cases cs with
  | nil => simp [closingQuote?, other]
  | cons d rest => simp [closingQuote?, other]

/-- A quote without its double closes the literal. -/
theorem closingQuote?_cons_self (alone : cs.head? ≠ some quote) :
    closingQuote? quote (quote :: cs) = some 0 := by
  cases cs with
  | nil => simp [closingQuote?]
  | cons d rest =>
    have other : d ≠ quote := fun same => alone (congrArg some same)
    simp [closingQuote?, other]

/-- The closing quote is looked for behind a text with doubled quotes. -/
theorem closingQuote?_doubled_append (quote : Char) (text cs : List Char) :
    closingQuote? quote (doubled quote text ++ cs) =
      (closingQuote? quote cs).map (· + (doubled quote text).length) := by
  induction text with
  | nil => cases closed : closingQuote? quote cs <;> simp [doubled, closed]
  | cons c text ih =>
    by_cases same : c = quote
    · subst same
      rw [doubled_cons_self, List.cons_append, List.cons_append, closingQuote?_cons_self_self, ih,
        Option.map_map]
      rfl
    · rw [doubled_cons_of_ne same, List.cons_append, closingQuote?_cons_of_ne same, ih,
        Option.map_map]
      rfl

/-- Every text is one with doubled quotes, or it has one up to a quote without its
double. -/
theorem exists_doubled (quote : Char) (cs : List Char) :
    ∃ text rest, cs = doubled quote text ++ rest ∧
      (rest = [] ∨ ∃ behind, rest = quote :: behind ∧ behind.head? ≠ some quote) := by
  induction cs using closingQuote?.induct quote with
  | case1 => exact ⟨[], [], rfl, .inl rfl⟩
  | case2 => exact ⟨[], [quote], rfl, .inr ⟨[], rfl, (Option.some_ne_none _).symm⟩⟩
  | case3 c other => exact ⟨[c], [], by rw [doubled_cons_of_ne other]; rfl, .inl rfl⟩
  | case4 c d rest other ih =>
    obtain ⟨text, more, spelled, ends⟩ := ih
    exact ⟨c :: text, more, by rw [doubled_cons_of_ne other, spelled]; rfl, ends⟩
  | case5 c rest same ih =>
    rw [not_not] at same
    subst same
    obtain ⟨text, more, spelled, ends⟩ := ih
    exact ⟨c :: text, more, by rw [doubled_cons_self, spelled]; rfl, ends⟩
  | case6 c d rest same other =>
    rw [not_not] at same
    subst same
    have alone : (d :: rest).head? ≠ some c := fun double => other (Option.some.inj double)
    exact ⟨[], c :: d :: rest, rfl, .inr ⟨d :: rest, rfl, alone⟩⟩

/-- What stands in front of the closing quote is a text with doubled quotes. -/
theorem exists_doubled_of_closingQuote? {body : Nat}
    (closed : closingQuote? quote cs = some body) :
    ∃ text, cs.take (body + 1) = doubled quote text ++ [quote] := by
  obtain ⟨text, rest, rfl, rfl | ⟨behind, rfl, alone⟩⟩ := exists_doubled quote cs
  · rw [closingQuote?_doubled_append] at closed
    contradiction
  · rw [closingQuote?_doubled_append, closingQuote?_cons_self alone] at closed
    cases closed
    refine ⟨text, ?_⟩
    dsimp only
    rw [Nat.zero_add, List.take_length_add_append]
    rfl

/-- What stands in front of another character, where no literal closes, is a text with
doubled quotes. -/
theorem exists_doubled_of_closingQuote?_eq_none {c : Char} {rest : List Char}
    (other : c ≠ quote) (unclosed : closingQuote? quote (cs ++ c :: rest) = none) :
    ∃ text, cs = doubled quote text := by
  obtain ⟨text, more, rfl, rfl | ⟨behind, rfl, alone⟩⟩ := exists_doubled quote cs
  · exact ⟨text, List.append_nil _⟩
  · have still : (behind ++ c :: rest).head? ≠ some quote := by
      cases behind with
      | nil => exact fun same => other (Option.some.inj same)
      | cons d behind => exact alone
    rw [List.append_assoc, closingQuote?_doubled_append, List.cons_append,
      closingQuote?_cons_self still] at unclosed
    contradiction

theorem isBlank_of_isQuote {c : Char} (quote : isQuote c = true) : Text.isBlank c = false := by
  simp only [isQuote, Bool.or_eq_true, beq_iff_eq] at quote
  rcases quote with rfl | rfl <;> decide

theorem ne_of_isQuote {c d : Char} (quote : isQuote c = true) (other : isQuote d = false) :
    c ≠ d := by
  rintro rfl
  rw [quote] at other
  contradiction

/-- A text with doubled quotes is not closed by a marker and blanks. -/
theorem closingQuote?_fold {blanks : List Char} (blank : ∀ c ∈ blanks, Text.isBlank c = true)
    (isQuote : isQuote quote = true) :
    closingQuote? quote (doubled quote text ++ '&' :: blanks) = none := by
  have absent : ∀ c ∈ '&' :: blanks, c ≠ quote := by
    rw [List.forall_mem_cons]
    refine ⟨(ne_of_isQuote isQuote rfl).symm, ?_⟩
    rintro c member rfl
    have filled := isBlank_of_isQuote isQuote
    rw [blank c member] at filled
    contradiction
  rw [closingQuote?_doubled_append, closingQuote?_eq_none absent, Option.map_none]

/-- A text with doubled quotes is closed by a quote without its double. -/
theorem closingQuote?_last {behind : List Char} (alone : behind.head? ≠ some quote) :
    closingQuote? quote (doubled quote text ++ quote :: behind) =
      some (doubled quote text).length := by
  rw [closingQuote?_doubled_append, closingQuote?_cons_self alone, Option.map_some, Nat.zero_add]

/-- Only a quote begins a literal. -/
theorem isQuote_of_read? {depth : Nat} {c : Char} {lexeme : Lexeme}
    (read : read? depth (c :: cs) = some lexeme) (string : lexeme.kind = .string) :
    isQuote c = true := by
  by_contra quote
  by_cases alpha : c.isAlpha = true
  · rw [read?_name quote alpha] at read
    cases read
    unfold nameKind at string
    split at string <;> contradiction
  by_cases starts : startsNumber (c :: cs) = true
  · rw [read?_number quote alpha starts] at read
    cases read
    contradiction
  cases dotted : dottedLength? (c :: cs) with
  | some length =>
    rw [read?_dotted quote alpha starts dotted] at read
    cases read
    contradiction
  | none =>
    rw [read?_operator quote alpha starts dotted] at read
    obtain ⟨operator, -, rfl⟩ := Option.map_eq_some_iff.mp read
    contradiction

end Lexeme

/-! ## Pieces of a literal -/

namespace Line

/-- The piece of a literal that is carried over ends in front of the last ampersand
of its line. -/
theorem carriedPart?_append {blanks : List Char} (blank : ∀ c ∈ blanks, Text.isBlank c = true)
    (piece : List Char) : carriedPart? (piece ++ '&' :: blanks) = some piece := by
  have trimmed : Text.trimEnd (piece ++ '&' :: blanks) = piece ++ ['&'] := by
    have kept : Text.isBlank '&' = false := by decide
    have backward : ∀ c ∈ blanks.reverse, Text.isBlank c = true := by simpa using blank
    rw [Text.trimEnd, Text.dropEndWhile, List.reverse_append, List.reverse_cons, List.append_assoc,
      List.dropWhile_append_of_pos backward]
    simp [kept]
  simp [carriedPart?, trimmed]

variable {line column : Nat} {progress : Progress}

theorem carriedPart?_cons {c : Char} (filled : Text.isBlank c = false) (apart : c ≠ '&')
    (cs : List Char) : carriedPart? (c :: cs) = (carriedPart? cs).map (c :: ·) := by
  unfold carriedPart?
  rw [Text.trimEnd, dropEndWhile_cons filled, ← Text.trimEnd]
  cases Text.trimEnd cs with
  | nil => simp [apart]
  | cons d more =>
    dsimp only
    rw [List.getLast?_cons_cons, List.dropLast_cons_cons]
    split <;> rfl

/-- The piece of a literal that opens on a line begins with its quote. -/
theorem carry_quote {c : Char} {piece : List Char} (quote : Lexeme.isQuote c = true)
    (carried : carriedPart? cs = some piece) :
    carry line column progress ⟨c, line, column, []⟩ (c :: cs) =
      carry line (column + 1) progress ⟨c, line, column, [c]⟩ cs := by
  have carriedAll : carriedPart? (c :: cs) = some (c :: piece) := by
    rw [carriedPart?_cons (Lexeme.isBlank_of_isQuote quote) (Lexeme.ne_of_isQuote quote rfl),
      carried]
    rfl
  have place_eq : column + (c :: piece).length = column + 1 + piece.length := by
    rw [List.length_cons, Nat.add_comm piece.length 1, ← Nat.add_assoc]
  unfold carry
  rw [carriedAll, carried]
  dsimp only
  rw [place_eq]
  rfl

/-- A literal without an end on its line is carried over, or is an error. -/
theorem readRest_unclosed {c : Char} (quote : Lexeme.isQuote c = true)
    (read : Lexeme.read? progress.constructors (c :: cs) = none) :
    readRest line column progress (c :: cs) =
      carry line column progress ⟨c, line, column, []⟩ (c :: cs) := by
  have noGap : Text.isGap c = false := isGap_eq_false (Lexeme.isBlank_of_isQuote quote)
  rw [readRest, noGap, if_neg Bool.false_ne_true, if_neg (Lexeme.ne_of_isQuote quote rfl),
    if_neg (Lexeme.ne_of_isQuote quote rfl), if_neg (Lexeme.ne_of_isQuote quote rfl), read]
  exact if_pos quote

/-- The literal closes on the line, or it is carried over to the next. -/
def Terminates (quote : Char) (cs : List Char) : Prop :=
  Lexeme.closingQuote? quote cs = none → carriedPart? cs ≠ none

/-- A literal that opens on a line goes on behind its quote like one that is carried
over. -/
theorem readRest_quote {c : Char} (quote : Lexeme.isQuote c = true) (ends : Terminates c cs) :
    readRest line column progress (c :: cs) =
      resumeLiteral line (column + 1) progress ⟨c, line, column, [c]⟩ cs := by
  unfold resumeLiteral
  dsimp only
  cases closed : Lexeme.closingQuote? c cs with
  | some body =>
    have read : Lexeme.read? progress.constructors (c :: cs) =
        some ⟨.string, body + 1, progress.constructors⟩ := by
      rw [Lexeme.read?_quote quote, closed]
      rfl
    have inside := Lexeme.closingQuote?_lt closed
    have token_eq : Token.onLine .string line column (c :: cs.take (body + 1)) =
        { kind := .string, text := String.ofList ([c] ++ cs.take (body + 1)), line, column,
          endLine := line, endColumn := column + 1 + body } := by
      rw [Token.onLine, List.length_cons, List.length_take]
      congr 1
      omega
    rw [readRest_lexeme read, token_eq]
    rfl
  | none =>
    obtain ⟨piece, carried⟩ := Option.ne_none_iff_exists'.mp (ends closed)
    have read : Lexeme.read? progress.constructors (c :: cs) = none := by
      rw [Lexeme.read?_quote quote, closed]
      rfl
    rw [readRest_unclosed quote read, carry_quote quote carried]

end Line

end FortranStyle
