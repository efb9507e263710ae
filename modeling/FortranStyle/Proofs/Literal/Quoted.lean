import FortranStyle.Proofs.Literal.Doubled

/-!
# Quoted literals

What a literal holds between its quotes is a text with doubled quotes: on one line by
the search for the closing quote, and over lines because every piece that is carried
over adds such a text to the literal.
-/

namespace FortranStyle

namespace Line

/-- A literal over lines holds its quote and a text with doubled quotes. -/
def IsQuoted (literal : OpenLiteral) : Prop :=
  Lexeme.isQuote literal.quote = true ∧
    ∃ text, literal.text = literal.quote :: Lexeme.doubled literal.quote text

theorem isQuoted_of_none : ∀ literal ∈ openLiteral? none, IsQuoted literal := by
  rintro literal ⟨⟩

end Line

/-- The token has the text of a literal: a text with doubled quotes between two
quotes. -/
def Token.IsQuoted (token : Token) : Prop :=
  ∃ quote text, Lexeme.isQuote quote = true ∧
    token.text = String.ofList (quote :: Lexeme.doubled quote text ++ [quote])

namespace Line

variable {line column : Nat} {progress : Progress} {literal : OpenLiteral}

/-- Every literal of a reading is quoted, whether it closes or is carried over. -/
def KeepsQuoted (reading : Reading) : Prop :=
  (∀ token ∈ reading.1, token.kind = .string → token.IsQuoted) ∧
    ∀ literal ∈ openLiteral? reading.2.pending, IsQuoted literal

namespace KeepsQuoted

variable {reading : Reading} {tokens : List Token}

theorem kind_ne_of_silent (silent : ∀ token ∈ tokens, token.isCode = false) :
    ∀ token ∈ tokens, token.kind ≠ .string := by
  intro token member string
  have code := silent token member
  rw [Token.isCode, string] at code
  contradiction

theorem of_silent (silent : ∀ token ∈ reading.1, token.isCode = false)
    (carried : ∀ literal ∈ openLiteral? reading.2.pending, IsQuoted literal) :
    KeepsQuoted reading :=
  ⟨fun token member string => absurd string (kind_ne_of_silent silent token member), carried⟩

theorem append (silent : ∀ token ∈ tokens, token.isCode = false)
    (kept : KeepsQuoted reading) : KeepsQuoted (tokens ++ reading.1, reading.2) := by
  refine ⟨List.forall_mem_append.mpr ⟨?_, kept.1⟩, kept.2⟩
  exact fun token member string => absurd string (kind_ne_of_silent silent token member)

theorem emit {token : Token} (quoted : token.kind = .string → token.IsQuoted)
    (kept : KeepsQuoted reading) : KeepsQuoted (Line.emit token reading) :=
  ⟨List.forall_mem_cons.mpr ⟨quoted, kept.1⟩, kept.2⟩

end KeepsQuoted

/-- The text of a literal that closes is quoted. -/
theorem isQuoted_closed {cs : List Char} {body : Nat} {token : Token}
    (quoted : IsQuoted literal) (closed : Lexeme.closingQuote? literal.quote cs = some body)
    (text_eq : token.text = String.ofList (literal.text ++ cs.take (body + 1))) :
    token.IsQuoted := by
  obtain ⟨isQuote, text, opened⟩ := quoted
  obtain ⟨more, ended⟩ := Lexeme.exists_doubled_of_closingQuote? closed
  refine ⟨literal.quote, text ++ more, isQuote, ?_⟩
  rw [text_eq, opened, ended, Lexeme.doubled_append, List.cons_append, List.cons_append,
    List.append_assoc]

/-- A literal without an end on its line is carried over with the piece there. -/
theorem keepsQuoted_carry {cs : List Char} (quoted : IsQuoted literal)
    (unclosed : Lexeme.closingQuote? literal.quote cs = none) :
    KeepsQuoted (carry line column progress literal cs) := by
  refine .of_silent (isCode_carry line column progress literal cs) ?_
  unfold carry
  cases found : carriedPart? cs with
  | none => exact isQuoted_of_none
  | some piece =>
    obtain ⟨isQuote, text, text_eq⟩ := quoted
    obtain ⟨blanks, rfl⟩ := exists_of_carriedPart? found
    obtain ⟨more, piece_eq⟩ := Lexeme.exists_doubled_of_closingQuote?_eq_none
      (Lexeme.ne_of_isQuote isQuote rfl).symm unclosed
    rintro carried ⟨⟩
    refine ⟨isQuote, text ++ more, ?_⟩
    rw [text_eq, piece_eq, Lexeme.doubled_append, List.cons_append]

/-- Where a literal opens, it is empty so far. -/
theorem isQuoted_opening {c : Char} (quote : Lexeme.isQuote c = true) (line column : Nat) :
    IsQuoted ⟨c, line, column, [c]⟩ :=
  ⟨quote, [], rfl⟩

/-- Every literal on the rest of a line is quoted. -/
theorem keepsQuoted_readRest (line column : Nat) (progress : Progress) (cs : List Char) :
    KeepsQuoted (readRest line column progress cs) := by
  fun_induction readRest line column progress cs with
  | case1 column progress =>
      exact .of_silent (isCode_close progress '\n' line column) isQuoted_of_none
  | case2 column progress c rest gap ih => exact ih
  | case3 column progress rest =>
    refine .of_silent ?_ isQuoted_of_none
    exact List.forall_mem_cons.mpr ⟨rfl, isCode_close progress '\n' line _⟩
  | case4 column progress rest =>
    obtain ⟨nothing, noCode⟩ := noCode_afterMarker line column progress rest
    refine .of_silent noCode ?_
    rw [nothing]
    exact isQuoted_of_none
  | case5 column progress rest tokens ending read noGap noComment noMarker ih =>
    rw [read] at ih
    exact ih.append (isCode_close progress ';' line column)
  | case6 column progress c rest noGap noComment noMarker noEnd lexeme read ih =>
    refine .emit (fun string => ?_) ih
    have quote := Lexeme.isQuote_of_read? read string
    rw [Lexeme.read?_quote quote] at read
    obtain ⟨body, closed, rfl⟩ := Option.map_eq_some_iff.mp read
    exact isQuoted_closed (isQuoted_opening quote line column) closed rfl
  | case7 column progress c rest noGap noComment noMarker noEnd read quote =>
    rw [Lexeme.read?_quote quote, Option.map_eq_none_iff] at read
    cases carried : carriedPart? rest with
    | some piece =>
      rw [carry_quote quote carried]
      exact keepsQuoted_carry (isQuoted_opening quote line column) read
    | none =>
      rw [carry, carriedPart?_cons (Lexeme.isBlank_of_isQuote quote)
        (Lexeme.ne_of_isQuote quote rfl), carried]
      exact .of_silent (isCode_close progress '\n' line _) isQuoted_of_none
  | case8 column progress c rest =>
      exact .of_silent (isCode_close progress '\n' line _) isQuoted_of_none

theorem keepsQuoted_resumeLiteral (line column : Nat) (progress : Progress) (cs : List Char)
    (quoted : IsQuoted literal) : KeepsQuoted (resumeLiteral line column progress literal cs) := by
  unfold resumeLiteral
  cases closed : Lexeme.closingQuote? literal.quote cs with
  | some body =>
    exact .emit (fun _ => isQuoted_closed quoted closed rfl) (keepsQuoted_readRest line _ _ _)
  | none => exact keepsQuoted_carry quoted closed

/-- Every literal on a line is quoted, when what is carried over to the line is. -/
theorem keepsQuoted_read (line : Nat) {pending : Option Suspended}
    (quoted : ∀ literal ∈ openLiteral? pending, IsQuoted literal) (cs : List Char) :
    KeepsQuoted (read line pending cs) := by
  obtain ⟨marks, reading, read_eq, silent, body⟩ := body_read line pending cs
  rw [read_eq]
  refine .append (fun token member => Token.isCode_of_silent (silent token member)) ?_
  cases body with
  | unchanged => exact .of_silent (List.forall_mem_nil _) (by rwa [pending_unchanged])
  | directive => exact .of_silent (List.forall_mem_nil _) isQuoted_of_none
  | rest column progress cs => exact keepsQuoted_readRest line column progress cs
  | literal column progress literal cs from_le last_eq carried =>
    exact keepsQuoted_resumeLiteral line column progress cs (quoted literal carried)

end Line

namespace Tokenized

theorem isQuoted_linesPart {line : Nat} {pending : Option Suspended}
    (quoted : ∀ literal ∈ openLiteral? pending, Line.IsQuoted literal) (lines : List (List Char)) :
    ∀ token ∈ (linesPart line pending lines).tokens, token.kind = .string → token.IsQuoted := by
  induction lines generalizing line pending with
  | nil => exact List.forall_mem_nil _
  | cons cs rest ih =>
    obtain ⟨here, carried⟩ := Line.keepsQuoted_read line quoted cs
    rw [linesPart, Part.tokens_append, List.forall_mem_append]
    exact ⟨here, ih carried⟩

/-- The text of every literal of a source is a text with doubled quotes between two
quotes. -/
theorem isQuoted_of_string (source : List String) :
    ∀ token ∈ (ofLines source).tokens, token.kind = .string → token.IsQuoted := by
  intro token member string
  change token ∈ (readLines 1 none (source.map lineText)).tokens at member
  rw [readLines_eq, Part.tokens_append, List.mem_append] at member
  rcases member with here | atEnd
  · exact isQuoted_linesPart Line.isQuoted_of_none _ token here string
  · have silent := isCode_danglingPart (pendingBehind 1 none (source.map lineText))
    exact absurd string (Line.KeepsQuoted.kind_ne_of_silent silent token atEnd)

end Tokenized

end FortranStyle
