import FortranStyle.Proofs.Reading.Pending

/-!
# Places of tokens and errors

What is read of a line stands on the line, at one of its characters; an error may
stand right behind the last character.  The only place that a reading tells of
another line is that of the literal carried over to it, which opened on a line
above and stood on that line.  So code tokens and errors have places in the
source, and so has the marker that is reported at the end of it.
-/

namespace FortranStyle

/-- The place is on one of the lines, at a character of it or right behind the
last one. -/
def HasPlace (texts : List (List Char)) (place : Nat × Nat) : Prop :=
  ∃ text, 1 ≤ place.1 ∧ texts[place.1 - 1]? = some text ∧ 1 ≤ place.2 ∧
    place.2 ≤ text.length + 1

namespace Line

/-! ## Errors of a line -/

theorem errorColumn_of_carry (line column : Nat) (progress : Progress) (literal : OpenLiteral)
    (cs : List Char) :
    ∀ error ∈ (carry line column progress literal cs).2.errors, error.column = column := by
  unfold carry
  cases carriedPart? cs <;> simp [fail, LineEnd.errors]

theorem errorColumn_of_afterMarker (line column : Nat) (progress : Progress) (cs : List Char) :
    ∀ error ∈ (afterMarker line column progress cs).2.errors,
      column ≤ error.column ∧ error.column ≤ column + cs.length := by
  unfold afterMarker
  split
  · cases dropped : cs.drop (Lexeme.leading Text.isGap cs) with
    | nil => simp [dropped, LineEnd.errors]
    | cons c rest =>
      have inside : Lexeme.leading Text.isGap cs < cs.length := by
        have length_eq := congrArg List.length dropped
        rw [List.length_drop, List.length_cons] at length_eq
        omega
      by_cases comment : c = '!'
      · simp [dropped, comment, LineEnd.errors]
      · simp only [dropped, comment, if_false, emit, fail, LineEnd.errors,
          List.forall_mem_singleton]
        omega
  · simp [fail, LineEnd.errors]

/-- An error in the rest of a line stands there, or right behind it. -/
theorem errorColumn_of_readRest (line column : Nat) (progress : Progress) (cs : List Char) :
    ∀ error ∈ (readRest line column progress cs).2.errors,
      column ≤ error.column ∧ error.column ≤ column + cs.length := by
  fun_induction readRest line column progress cs with
  | case1 => simp [LineEnd.errors]
  | case2 column progress c rest gap ih =>
    intro error member
    have later := ih error member
    rw [List.length_cons]
    omega
  | case3 => simp [emit, LineEnd.errors]
  | case4 column progress rest =>
    intro error member
    have later := errorColumn_of_afterMarker line column progress rest error member
    rw [List.length_cons]
    omega
  | case5 column progress rest tokens ending read noGap noComment noMarker ih =>
    intro error member
    rw [read] at ih
    have later := ih error member
    rw [List.length_cons]
    omega
  | case6 column progress c rest noGap noComment noMarker noEnd lexeme read ih =>
    intro error member
    have later := ih error member
    have short := Lexeme.tail_lt_length read
    rw [List.length_drop] at later
    rw [List.length_cons] at short ⊢
    omega
  | case7 column progress c rest =>
    intro error member
    rw [errorColumn_of_carry line column progress _ (c :: rest) error member]
    omega
  | case8 => simp [fail, LineEnd.errors]

/-- An error of a line stands on it, or right behind it. -/
theorem errorColumn_of_read (line : Nat) (pending : Option Suspended) (cs : List Char) :
    ∀ error ∈ (read line pending cs).2.errors,
      1 ≤ error.column ∧ error.column ≤ cs.length + 1 := by
  obtain ⟨marks, reading, read_eq, -, body⟩ := body_read line pending cs
  have first_pos : 1 ≤ firstColumn cs := Nat.le_add_left 1 _
  rw [read_eq]
  generalize cs.length = last at body
  intro error member
  cases body with
  | unchanged => cases pending <;> simp [LineEnd.unchanged, LineEnd.errors] at member
  | directive => simp [LineEnd.errors] at member
  | rest column progress cs from_le last_eq =>
    have here := errorColumn_of_readRest line column progress cs error member
    omega
  | literal column progress literal cs from_le last_eq =>
    simp only [resumeLiteral] at member
    cases closed : Lexeme.closingQuote? literal.quote cs with
    | none =>
      rw [closed] at member
      rw [errorColumn_of_carry line column progress literal cs error member]
      omega
    | some body =>
      have inside := Lexeme.closingQuote?_lt closed
      rw [closed] at member
      have later := errorColumn_of_readRest _ _ _ _ error member
      rw [List.length_drop] at later
      omega

/-! ## Tokens of a line -/

/-- A place is at a character of a line of so many characters, or it is that of
the literal carried over to the line. -/
def StandsOn (line length : Nat) (pending : Option Suspended) (place : Nat × Nat) : Prop :=
  place.1 = line ∧ 1 ≤ place.2 ∧ place.2 ≤ length ∨
    ∃ literal ∈ openLiteral? pending, place = literal.place

theorem standsOn_here {line length line' column : Nat} {pending : Option Suspended}
    (line_eq : line' = line) (column_pos : 1 ≤ column) (column_le : column ≤ length) :
    StandsOn line length pending (line', column) :=
  .inl ⟨line_eq, column_pos, column_le⟩

/-- A literal that is carried over from a line opens on it, or is the one that is
carried over to it. -/
theorem standsOn_of_openLiteral? (line : Nat) (pending : Option Suspended) (cs : List Char) :
    ∀ literal ∈ openLiteral? (read line pending cs).2.pending,
      StandsOn line cs.length pending literal.place := by
  obtain ⟨marks, reading, read_eq, -, body⟩ := body_read line pending cs
  have first_pos : 1 ≤ firstColumn cs := Nat.le_add_left 1 _
  rw [read_eq]
  generalize cs.length = last at body
  intro literal carried
  cases body with
  | unchanged =>
    rw [pending_unchanged] at carried
    exact .inr ⟨literal, carried, rfl⟩
  | directive => contradiction
  | rest column progress cs from_le last_eq =>
    obtain ⟨line_eq, behind, lt_end, -⟩ :=
      literal_of_readRest line column progress cs literal carried
    exact standsOn_here line_eq (by omega) (by omega)
  | literal column progress literal' cs from_le last_eq carried' =>
    simp only [resumeLiteral] at carried
    cases closed : Lexeme.closingQuote? literal'.quote cs with
    | none =>
      rw [closed] at carried
      exact .inr ⟨literal', carried', (openLiteral?_carry carried).1⟩
    | some body =>
      have inside := Lexeme.closingQuote?_lt closed
      rw [closed] at carried
      obtain ⟨line_eq, behind, lt_end, -⟩ := literal_of_readRest _ _ _ _ literal carried
      rw [List.length_drop] at lt_end
      exact standsOn_here line_eq (by omega) (by omega)

/-- A code token of a line ends at a character of it, and it starts at one or is
the literal that is carried over to the line. -/
theorem standsOn_of_isCode (line : Nat) (pending : Option Suspended) (cs : List Char) :
    ∀ token ∈ (read line pending cs).1, token.isCode = true →
      StandsOn line cs.length pending token.start ∧
        StandsOn line cs.length pending token.stop := by
  obtain ⟨marks, reading, read_eq, silent, body⟩ := body_read line pending cs
  have first_pos : 1 ≤ firstColumn cs := Nat.le_add_left 1 _
  rw [read_eq]
  generalize cs.length = last at body
  intro token member code
  rcases List.mem_append.mp member with mark | member
  · rw [Token.isCode_of_silent (silent token mark)] at code
    contradiction
  cases body with
  | unchanged => contradiction
  | directive => contradiction
  | rest column progress cs from_le last_eq =>
    obtain ⟨line_eq, endLine_eq, behind, upright, lt_end⟩ :=
      token_of_readRest line column progress cs token member code
    exact ⟨standsOn_here line_eq (by omega) (by omega),
      standsOn_here endLine_eq (by omega) (by omega)⟩
  | literal column progress literal cs from_le last_eq carried =>
    simp only [resumeLiteral] at member
    cases closed : Lexeme.closingQuote? literal.quote cs with
    | none =>
      rw [closed] at member
      rw [isCode_carry line column progress literal cs token member] at code
      contradiction
    | some body =>
      have inside := Lexeme.closingQuote?_lt closed
      rw [closed] at member
      rcases List.mem_cons.mp member with rfl | later
      · have closing : StandsOn line last pending (line, column + body) :=
          standsOn_here rfl (by omega) (by omega)
        exact ⟨.inr ⟨literal, carried, rfl⟩, closing⟩
      · obtain ⟨line_eq, endLine_eq, behind, upright, lt_end⟩ :=
          token_of_readRest _ _ _ _ token later code
        rw [List.length_drop] at lt_end
        exact ⟨standsOn_here line_eq (by omega) (by omega),
          standsOn_here endLine_eq (by omega) (by omega)⟩

end Line

/-! ## Sources -/

namespace Tokenized

variable {texts : List (List Char)} {n : Nat} {text : List Char}

theorem hasPlace_of_standsOn (found : texts[n]? = some text) {pending : Option Suspended}
    (carried : ∀ literal ∈ openLiteral? pending, HasPlace texts literal.place) {place : Nat × Nat}
    (stands : Line.StandsOn (1 + n) text.length pending place) : HasPlace texts place := by
  rcases stands with ⟨line_eq, column_pos, column_le⟩ | ⟨literal, open_, rfl⟩
  · have line_pos : 1 ≤ place.1 := by omega
    have index_eq : place.1 - 1 = n := by omega
    exact ⟨text, line_pos, index_eq ▸ found, column_pos, Nat.le_succ_of_le column_le⟩
  · exact carried literal open_

/-- A literal that is carried over to a line has a place above it. -/
theorem hasPlace_of_openLiteral? (inside : n ≤ texts.length) :
    ∀ literal ∈ openLiteral? (pendingBehind 1 none (texts.take n)),
      HasPlace texts literal.place := by
  induction n with
  | zero => exact fun literal carried => nomatch carried
  | succ n ih =>
    have lt : n < texts.length := inside
    have found : texts[n]? = some texts[n] := List.getElem?_eq_getElem lt
    have taken : (texts.take n).length = n := List.length_take_of_le (Nat.le_of_lt lt)
    rw [List.take_add_one, found, Option.toList_some, pendingBehind_append, taken]
    intro literal carried
    exact hasPlace_of_standsOn found (ih (Nat.le_of_lt lt))
      (Line.standsOn_of_openLiteral? (1 + n) _ texts[n] literal carried)

/-- Both ends of a code token have places in the source. -/
theorem hasPlace_of_isCode (source : List String) :
    ∀ token ∈ (ofLines source).tokens, token.isCode = true →
      HasPlace (source.map lineText) token.start ∧ HasPlace (source.map lineText) token.stop := by
  intro token member code
  rw [(ofLines_eq source).1, readLines_eq, Part.tokens_append, List.mem_append] at member
  rcases member with inLines | dangling
  · rw [tokens_linesPart, List.mem_flatMap] at inLines
    obtain ⟨reading, read, member⟩ := inLines
    obtain ⟨n, text, -, found, rfl⟩ := exists_of_mem_readings read
    have inside := Nat.le_of_lt (List.getElem?_eq_some_iff.mp found).1
    have stands := Line.standsOn_of_isCode _ _ _ token member code
    have carried := hasPlace_of_openLiteral? inside
    exact ⟨hasPlace_of_standsOn found carried stands.1,
      hasPlace_of_standsOn found carried stands.2⟩
  · rw [isCode_danglingPart _ token dangling] at code
    contradiction

/-- An error has a place in the source. -/
theorem hasPlace_of_mem_errors (source : List String) :
    ∀ error ∈ (ofLines source).errors,
      HasPlace (source.map lineText) (error.line, error.column) := by
  intro error member
  rw [errors_eq, List.mem_append] at member
  rcases member with raised | dangling
  · rw [errors_linesPart, List.mem_flatMap] at raised
    obtain ⟨reading, read, raised⟩ := raised
    obtain ⟨n, text, -, found, rfl⟩ := exists_of_mem_readings read
    have line_eq := (Line.isErrorOf_read _ _ _ error raised).1
    obtain ⟨column_pos, column_le⟩ := Line.errorColumn_of_read _ _ _ error raised
    have index_eq : error.line - 1 = n := by omega
    exact ⟨text, by omega, index_eq ▸ found, column_pos, column_le⟩
  · cases pending_eq : pendingBehind 1 none (source.map lineText) with
    | none => simp [pending_eq, danglingPart] at dangling
    | some rest =>
      obtain ⟨m, nearest, suspends⟩ := pendingBehind_eq_some_iff.mp pending_eq
      obtain ⟨text, tokens, found, -, line_eq, ⟨front, back, text_eq, column_eq, -⟩, -⟩ :=
        suspends.breaksOff nearest.code
      simp only [pending_eq, danglingPart, List.mem_singleton] at dangling
      subst dangling
      change HasPlace _ (rest.line, rest.column)
      have index_eq : rest.line - 1 = m := by omega
      have width := congrArg List.length text_eq
      rw [List.length_append, List.length_cons] at width
      exact ⟨text, by omega, index_eq ▸ found, by omega, by omega⟩

end Tokenized

end FortranStyle
