import FortranStyle.Proofs.Reading.Order

/-!
# Passages

A passage is a piece of a line whose tokens do not depend on what follows it.
Reading a line up to a place that no code token straddles is a passage, as long
as the line is read at least that far: the same tokens are read, and reading
goes on in the same way, when what follows is replaced by a stop and anything
behind it.
-/

namespace FortranStyle

namespace Lexeme

variable {depth : Nat} {c : Char} {cs : List Char} {lexeme : Lexeme}

/-- A lexeme starts with a quote, a letter, a digit or an operator. -/
theorem first_of_read? (read : read? depth (c :: cs) = some lexeme) :
    isQuote c = true ∨ c.isAlpha = true ∨ c.isDigit = true ∨ c ∈ operatorChars := by
  by_cases quote : isQuote c = true
  · exact .inl quote
  by_cases alpha : c.isAlpha = true
  · exact .inr (.inl alpha)
  by_cases point : c = '.'
  · subst point
    exact .inr (.inr (.inr (by decide)))
  by_cases starts : startsNumber (c :: cs) = true
  · rw [startsNumber_of_ne point] at starts
    exact .inr (.inr (.inl starts))
  by_cases listed : c ∈ operatorChars
  · exact .inr (.inr (.inr listed))
  · rw [read?_operator quote alpha starts (dottedLength?_of_ne point cs),
      operator?_of_notMem listed] at read
    contradiction

/-- What a lexeme starts with is not blank and does not end the code of a
line. -/
theorem visible_of_read? (read : read? depth (c :: cs) = some lexeme) :
    Text.isBlank c = false ∧ c ∉ ['!', '&', ';'] := by
  rcases first_of_read? read with quote | alpha | digit | operator
  · simp only [isQuote, Bool.or_eq_true, beq_iff_eq] at quote
    rcases quote with rfl | rfl <;> decide
  · rw [isAlpha_iff_toNat] at alpha
    constructor
    · simp only [Text.isBlank, Bool.or_eq_false_iff, Bool.and_eq_false_iff,
        decide_eq_false_iff_not, beq_eq_false_iff_ne]
      omega
    · intro listed
      have others : ['!', '&', ';'].all (·.toNat < 0x41) = true := by decide
      have below := of_decide_eq_true (List.all_eq_true.mp others c listed)
      omega
  · obtain ⟨low, high⟩ := Char.isDigit_iff_toNat.mp digit
    have low' : 0x30 ≤ c.toNat := low
    have high' : c.toNat ≤ 0x39 := high
    constructor
    · simp only [Text.isBlank, Bool.or_eq_false_iff, Bool.and_eq_false_iff,
        decide_eq_false_iff_not, beq_eq_false_iff_ne]
      omega
    · intro listed
      have others : ['!', '&', ';'].all (!·.isDigit) = true := by decide
      have noDigit := List.all_eq_true.mp others c listed
      rw [digit] at noDigit
      contradiction
  · have visible : operatorChars.all (fun c => !Text.isBlank c) = true := by decide
    have coding : operatorChars.all (fun c => ['!', '&', ';'].contains c == false) = true := by
      decide
    have filled := List.all_eq_true.mp visible c operator
    have noMark := List.all_eq_true.mp coding c operator
    exact ⟨by simpa using filled, by simpa using noMark⟩

/-- A literal ends in its quote. -/
theorem getLast?_of_isQuote {more behind : List Char} (quote : isQuote c = true)
    (read : read? depth (c :: more ++ behind) = some lexeme)
    (length_eq : more.length = lexeme.tail) : (c :: more).getLast? = some c := by
  rw [List.cons_append, read?_quote quote] at read
  obtain ⟨body, closed, rfl⟩ := Option.map_eq_some_iff.mp read
  change more.length = body + 1 at length_eq
  have last := getElem?_closingQuote? closed
  rw [List.getElem?_append_left (by omega)] at last
  rw [List.getLast?_cons, List.getLast?_eq_getElem?, length_eq, Nat.add_sub_cancel, last]
  rfl

end Lexeme

namespace Line

variable {line column : Nat} {progress : Progress} {text rest : List Char}

/-- A lexeme at the start of the rest of a line is the first token. -/
theorem readRest_lexeme {c : Char} {lexeme : Lexeme}
    (read : Lexeme.read? progress.constructors (c :: rest) = some lexeme) :
    readRest line column progress (c :: rest) =
      emit (Token.onLine lexeme.kind line column (c :: rest.take lexeme.tail))
        (readRest line (column + 1 + lexeme.tail) ⟨true, lexeme.depth⟩
          (rest.drop lexeme.tail)) := by
  obtain ⟨filled, noMark⟩ := Lexeme.visible_of_read? read
  simp only [List.mem_cons, List.not_mem_nil, or_false, not_or] at noMark
  obtain ⟨noComment, noMarker, noEnd⟩ := noMark
  have noGap : ¬Text.isGap c = true := by
    intro gap
    rw [Text.isBlank_of_isGap gap] at filled
    contradiction
  rw [readRest, if_neg noGap, if_neg noComment, if_neg noMarker, if_neg noEnd, read]

/-- Put tokens in front of a reading. -/
def prepend (tokens : List Token) (reading : Reading) : Reading :=
  (tokens ++ reading.1, reading.2)

theorem prepend_nil (reading : Reading) : prepend [] reading = reading :=
  rfl

theorem emit_prepend (token : Token) (tokens : List Token) (reading : Reading) :
    emit token (prepend tokens reading) = prepend (token :: tokens) reading :=
  rfl

theorem prepend_prepend (first second : List Token) (reading : Reading) :
    prepend first (prepend second reading) = prepend (first ++ second) reading := by
  simp [prepend]

/-- A piece of a line gives tokens and a progress, and the rest is read from
there. -/
def Passes (line column : Nat) (progress : Progress) (text : List Char) (tokens : List Token)
    (progress' : Progress) (rest : List Char) : Prop :=
  readRest line column progress (text ++ rest) =
    prepend tokens (readRest line (column + text.length) progress' rest)

namespace Passes

variable {progress' : Progress} {tokens : List Token}

theorem nil (line column : Nat) (progress : Progress) (rest : List Char) :
    Passes line column progress [] [] progress rest :=
  rfl

theorem gap {c : Char} (isGap : Text.isGap c = true)
    (passes : Passes line (column + 1) progress text tokens progress' rest) :
    Passes line column progress (c :: text) tokens progress' rest := by
  unfold Passes at *
  rw [List.cons_append, readRest, if_pos isGap, passes, List.length_cons, Nat.add_assoc,
    Nat.add_comm 1]

theorem semicolon (passes : Passes line (column + 1) .fresh text tokens progress' rest) :
    Passes line column progress (';' :: text) (progress.close ';' line column ++ tokens)
      progress' rest := by
  unfold Passes at *
  have noGap : ¬Text.isGap ';' = true := by decide
  rw [List.cons_append, readRest, if_neg noGap, if_neg (by decide), if_neg (by decide),
    if_pos rfl, passes, List.length_cons, Nat.add_assoc, Nat.add_comm 1, ← prepend_prepend]
  rfl

theorem lexeme {lexeme : Lexeme} {c : Char} {more : List Char}
    (read : Lexeme.read? progress.constructors (c :: more ++ (text ++ rest)) = some lexeme)
    (length_eq : more.length = lexeme.tail)
    (passes : Passes line (column + 1 + lexeme.tail) ⟨true, lexeme.depth⟩ text tokens progress'
      rest) :
    Passes line column progress (c :: more ++ text)
      (Token.onLine lexeme.kind line column (c :: more) :: tokens) progress' rest := by
  unfold Passes at *
  have column_eq : column + (c :: (more ++ text)).length =
      column + 1 + lexeme.tail + text.length := by
    rw [List.length_cons, List.length_append]
    omega
  rw [List.cons_append] at read
  rw [List.append_assoc, List.cons_append, readRest_lexeme read, ← length_eq, List.take_left,
    List.drop_left, length_eq, passes, List.cons_append, column_eq]
  rfl

end Passes

/-! ## Reading as far as a place -/

/-- A code token or a literal starts at a column or behind it. -/
def Begins (place : Nat) (reading : Reading) : Prop :=
  (∃ token ∈ reading.1, token.isCode = true ∧ place ≤ token.column) ∨
    ∃ literal ∈ openLiteral? reading.2.pending, place ≤ literal.column

/-- The reading of a line goes beyond a column: something begins there, or the
line is read to its end. -/
def Reaches (place : Nat) (reading : Reading) : Prop :=
  Begins place reading ∨
    reading.2 = .complete ∧ ∀ token ∈ reading.1, token.kind ≠ .comment

theorem Begins.of_le {place place' : Nat} {reading : Reading} (le : place ≤ place')
    (begins : Begins place' reading) : Begins place reading := by
  rcases begins with ⟨token, member, code, le'⟩ | ⟨literal, found, le'⟩
  · exact .inl ⟨token, member, code, le.trans le'⟩
  · exact .inr ⟨literal, found, le.trans le'⟩

theorem Begins.of_prepend {place : Nat} {tokens : List Token} {reading : Reading}
    (early : ∀ token ∈ tokens, token.isCode = true → token.column < place)
    (begins : Begins place (prepend tokens reading)) : Begins place reading := by
  rcases begins with ⟨token, member, code, le⟩ | opens
  · rcases List.mem_append.mp member with here | later
    · exact absurd (early token here code) (Nat.not_lt.mpr le)
    · exact .inl ⟨token, later, code, le⟩
  · exact .inr opens

theorem Reaches.of_prepend {place : Nat} {tokens : List Token} {reading : Reading}
    (early : ∀ token ∈ tokens, token.isCode = true → token.column < place)
    (reaches : Reaches place (prepend tokens reading)) : Reaches place reading := by
  rcases reaches with begins | ⟨complete, noComment⟩
  · exact .inl (begins.of_prepend early)
  · exact .inr ⟨complete, fun token member =>
      noComment token (List.mem_append_right _ member)⟩

/-- Every code token of a reading ends in front of a column or starts behind
it. -/
def Whole (place : Nat) (reading : Reading) : Prop :=
  ∀ token ∈ reading.1, token.isCode = true → token.endColumn < place ∨ place ≤ token.column

theorem not_begins_of_noCode {place : Nat} {reading : Reading}
    (noCode : ∀ token ∈ reading.1, token.isCode = false)
    (nothing : openLiteral? reading.2.pending = none) : ¬Begins place reading := by
  rintro (⟨token, member, code, -⟩ | ⟨literal, carried, -⟩)
  · rw [noCode token member] at code
    contradiction
  · rw [nothing] at carried
    contradiction

theorem not_reaches_of_noCode {place : Nat} {reading : Reading}
    (noCode : ∀ token ∈ reading.1, token.isCode = false)
    (nothing : openLiteral? reading.2.pending = none)
    (broken : reading.2 ≠ .complete ∨ ∃ token ∈ reading.1, token.kind = .comment) :
    ¬Reaches place reading := by
  rintro (begins | ⟨complete, noComment⟩)
  · exact not_begins_of_noCode noCode nothing begins
  · rcases broken with incomplete | ⟨token, member, comment⟩
    · exact incomplete complete
    · exact noComment token member comment

theorem not_reaches_afterMarker (line column place : Nat) (progress : Progress)
    (cs : List Char) : ¬Reaches place (afterMarker line column progress cs) := by
  obtain ⟨nothing, noCode⟩ := noCode_afterMarker line column progress cs
  refine not_reaches_of_noCode noCode nothing (.inl ?_)
  rcases afterMarker_cases line column progress cs with
    read | ⟨place, rest, read⟩ | ⟨c, place, read⟩ | read
  all_goals
    rw [read]
    exact nofun

theorem not_reaches_carry {line column place : Nat} {progress : Progress}
    {literal : OpenLiteral} (cs : List Char) (early : literal.column < place) :
    ¬Reaches place (carry line column progress literal cs) := by
  have noCode := isCode_carry line column progress literal cs
  rintro ((⟨token, member, code, -⟩ | ⟨carried, found, le⟩) | ⟨complete, -⟩)
  · rw [noCode token member] at code
    contradiction
  · have column_eq : carried.column = literal.column :=
      congrArg Prod.snd (openLiteral?_carry found).1
    omega
  · unfold carry at complete
    split at complete <;> contradiction

theorem not_reaches_fail (line column place lineEnd : Nat) (progress : Progress)
    (cause : LexCause) : ¬Reaches place (fail progress cause line column lineEnd) :=
  not_reaches_of_noCode (isCode_close progress '\n' line lineEnd) rfl (.inl nofun)

/-- The end of a text is in the middle of `(/)`, in front of the second
bracket. -/
def Bracket (text rest : List Char) : Prop :=
  ['(', '/'] <:+ text ∧ rest.head? = some ')'

theorem Bracket.of_suffix {text' : List Char} (suffix : text' <:+ text)
    (bracket : Bracket text' rest) : Bracket text rest :=
  ⟨bracket.1.trans suffix, bracket.2⟩

/-- The text does not end in a quote that stands behind it: there the two would be a
doubled quote. -/
def PartsFrom (text : List Char) (e : Char) : Prop :=
  Lexeme.isQuote e = true → text.getLast? ≠ some e

theorem PartsFrom.of_suffix {text' : List Char} {e : Char} (suffix : text' <:+ text)
    (parts : PartsFrom text e) : PartsFrom text' e := by
  intro quote last
  obtain ⟨front, rfl⟩ := suffix
  apply parts quote
  rw [List.getLast?_append, last]
  rfl

/-- The start of a line up to a place that no code token straddles is a passage,
with what follows it as well as with a stop or a quote, when the line is read beyond
that place.  The exceptions are a bracket in front of `/)` and a literal in front of
its own quote. -/
theorem exists_passes_of_isApart (text : List Char)
    (reaches : Reaches (column + text.length) (readRest line column progress (text ++ rest)))
    (whole : Whole (column + text.length) (readRest line column progress (text ++ rest)))
    (bracket : ¬Bracket text rest) :
    ∃ tokens progress', Passes line column progress text tokens progress' rest ∧
      (∀ e after, Lexeme.isApart e = true → PartsFrom text e →
        Passes line column progress text tokens progress' (e :: after)) ∧
      ∀ token ∈ tokens, token.column < column + text.length := by
  generalize cs_eq : text ++ rest = cs at reaches whole
  fun_induction readRest line column progress cs generalizing text with
  | case1 column progress =>
    obtain ⟨rfl, rfl⟩ := List.append_eq_nil_iff.mp cs_eq
    exact ⟨[], progress, .nil .., fun _ _ _ _ => .nil .., List.forall_mem_nil _⟩
  | case2 column progress c cs gap ih =>
    cases text with
    | nil => exact ⟨[], progress, .nil .., fun _ _ _ _ => .nil .., List.forall_mem_nil _⟩
    | cons d text =>
      rw [List.cons_append] at cs_eq
      obtain ⟨rfl, rfl⟩ := List.cons_eq_cons.mp cs_eq
      rw [List.length_cons, Nat.add_comm text.length 1, ← Nat.add_assoc] at reaches whole ⊢
      obtain ⟨tokens, progress', passes, stops, early⟩ :=
        ih text (fun inner => bracket (inner.of_suffix (List.suffix_cons _ text)))
          rfl reaches whole
      refine ⟨tokens, progress', passes.gap gap, fun e after apart parts => ?_, early⟩
      exact (stops e after apart (parts.of_suffix (List.suffix_cons _ text))).gap gap
  | case3 column progress cs =>
    cases text with
    | nil => exact ⟨[], progress, .nil .., fun _ _ _ _ => .nil .., List.forall_mem_nil _⟩
    | cons d text =>
      refine absurd reaches (not_reaches_of_noCode ?_ rfl (.inr ⟨_, List.mem_cons_self, rfl⟩))
      rw [emit, List.forall_mem_cons]
      exact ⟨rfl, isCode_close progress '\n' line _⟩
  | case4 column progress cs =>
    cases text with
    | nil => exact ⟨[], progress, .nil .., fun _ _ _ _ => .nil .., List.forall_mem_nil _⟩
    | cons d text => exact absurd reaches (not_reaches_afterMarker line column _ progress cs)
  | case5 column progress cs tokens ending read noGap noComment noMarker ih =>
    cases text with
    | nil => exact ⟨[], progress, .nil .., fun _ _ _ _ => .nil .., List.forall_mem_nil _⟩
    | cons d text =>
      rw [List.cons_append] at cs_eq
      obtain ⟨rfl, rfl⟩ := List.cons_eq_cons.mp cs_eq
      rw [List.length_cons, Nat.add_comm text.length 1, ← Nat.add_assoc] at reaches whole ⊢
      have noCode := isCode_close progress ';' line column
      have reachesRest : Reaches (column + 1 + text.length) (tokens, ending) := by
        apply Reaches.of_prepend _ reaches
        intro token member code
        rw [noCode token member] at code
        contradiction
      have wholeRest : Whole (column + 1 + text.length) (tokens, ending) :=
        fun token member => whole token (List.mem_append_right _ member)
      rw [← read] at reachesRest wholeRest
      obtain ⟨tokens, progress', passes, stops, early⟩ :=
        ih text (fun inner => bracket (inner.of_suffix (List.suffix_cons _ text))) rfl reachesRest
          wholeRest
      refine ⟨_, progress', passes.semicolon, fun e after apart parts => ?_, ?_⟩
      · exact (stops e after apart (parts.of_suffix (List.suffix_cons _ text))).semicolon
      · intro token member
        rcases List.mem_append.mp member with close | later
        · rw [mem_close close]
          exact Nat.lt_add_right _ (Nat.lt_succ_self column)
        · exact early token later
  | case6 column progress c cs noGap noComment noMarker noEnd lexeme read ih =>
    cases text with
    | nil => exact ⟨[], progress, .nil .., fun _ _ _ _ => .nil .., List.forall_mem_nil _⟩
    | cons d text =>
      rw [List.cons_append] at cs_eq
      obtain ⟨rfl, rfl⟩ := List.cons_eq_cons.mp cs_eq
      have code := Lexeme.isCode_read? read
      -- The lexeme does not straddle the place, so it is a part of the text.
      have inside : lexeme.tail ≤ text.length := by
        have within := Lexeme.tail_lt_length read
        rw [List.length_cons, List.length_append] at within
        rcases whole _ List.mem_cons_self code with ends | starts
        · simp only [Token.onLine, List.length_cons, List.length_take, List.length_append] at ends
          omega
        · simp only [Token.onLine, List.length_cons] at starts
          omega
      obtain ⟨more, text, rfl, length_eq⟩ : ∃ more rest, text = more ++ rest ∧
          more.length = lexeme.tail :=
        ⟨text.take lexeme.tail, text.drop lexeme.tail, (List.take_append_drop ..).symm,
          List.length_take_of_le inside⟩
      have place_eq : column + (d :: (more ++ text)).length =
          column + 1 + lexeme.tail + text.length := by
        rw [List.length_cons, List.length_append]
        omega
      have dropped : (more ++ text ++ rest).drop lexeme.tail = text ++ rest := by
        rw [List.append_assoc, ← length_eq, List.drop_left]
      rw [place_eq] at reaches whole ⊢
      rw [dropped] at ih reaches whole
      have reachesRest : Reaches (column + 1 + lexeme.tail + text.length)
          (readRest line (column + 1 + lexeme.tail) ⟨true, lexeme.depth⟩ (text ++ rest)) := by
        have reachesAll : Reaches (column + 1 + lexeme.tail + text.length)
            (prepend
              [Token.onLine lexeme.kind line column (d :: (more ++ text ++ rest).take lexeme.tail)]
              (readRest line (column + 1 + lexeme.tail) ⟨true, lexeme.depth⟩ (text ++ rest))) :=
          reaches
        apply reachesAll.of_prepend
        intro token member _
        rw [List.mem_singleton] at member
        subst member
        simp only [Token.onLine]
        omega
      have wholeRest : Whole (column + 1 + lexeme.tail + text.length)
          (readRest line (column + 1 + lexeme.tail) ⟨true, lexeme.depth⟩ (text ++ rest)) :=
        fun token member => whole token (List.mem_cons_of_mem _ member)
      have bracketRest : ¬Bracket text rest :=
        fun inner => bracket (inner.of_suffix (List.suffix_append (d :: more) text))
      obtain ⟨tokens, progress', passes, stops, early⟩ :=
        ih text bracketRest rfl reachesRest wholeRest
      rw [List.append_assoc] at read
      have earlyAll : ∀ token ∈ Token.onLine lexeme.kind line column (d :: more) :: tokens,
          token.column < column + 1 + lexeme.tail + text.length := by
        rw [List.forall_mem_cons]
        refine ⟨?_, early⟩
        simp only [Token.onLine]
        omega
      refine ⟨_, progress', Passes.lexeme read length_eq passes, fun e after apart parts => ?_,
        earlyAll⟩
      refine Passes.lexeme (Lexeme.read?_replace_of_isApart apart read ?_ ?_ ?_ ?_) length_eq
        (stops e after apart (parts.of_suffix (List.suffix_append (d :: more) text)))
      · rw [List.length_cons, length_eq]
      · intro nonempty next nextRead
        obtain ⟨f, after', rfl⟩ := List.exists_cons_of_ne_nil nonempty
        have nextCode := Lexeme.isCode_read? nextRead
        have within := Lexeme.tail_lt_length nextRead
        rw [List.cons_append] at nextRead wholeRest
        rw [readRest_lexeme nextRead] at wholeRest
        rw [List.cons_append, List.length_cons, List.length_append] at within
        rcases wholeRest _ List.mem_cons_self nextCode with ends | starts
        · simp only [Token.onLine, List.length_cons, List.length_take,
            List.length_append] at ends ⊢
          omega
        · simp only [Token.onLine, List.length_cons] at starts
          omega
      · rintro ⟨spelled, rfl, close⟩
        obtain ⟨rfl, rfl⟩ := List.cons_eq_cons.mp spelled
        exact bracket ⟨List.suffix_refl _, close⟩
      · rintro quote rfl opening
        cases opening
        apply parts quote
        rw [List.append_nil]
        exact Lexeme.getLast?_of_isQuote quote read length_eq
  | case7 column progress c cs =>
    cases text with
    | nil => exact ⟨[], progress, .nil .., fun _ _ _ _ => .nil .., List.forall_mem_nil _⟩
    | cons d text =>
      refine absurd reaches (not_reaches_carry (c :: cs) ?_)
      exact Nat.lt_add_of_pos_right (Nat.succ_pos _)
  | case8 column progress c cs =>
    cases text with
    | nil => exact ⟨[], progress, .nil .., fun _ _ _ _ => .nil .., List.forall_mem_nil _⟩
    | cons d text => exact absurd reaches (not_reaches_fail line column _ _ progress _)

/-- The same with a stop alone. -/
theorem exists_passes (text : List Char)
    (reaches : Reaches (column + text.length) (readRest line column progress (text ++ rest)))
    (whole : Whole (column + text.length) (readRest line column progress (text ++ rest)))
    (bracket : ¬Bracket text rest) :
    ∃ tokens progress', Passes line column progress text tokens progress' rest ∧
      (∀ e after, Lexeme.isStop e = true →
        Passes line column progress text tokens progress' (e :: after)) ∧
      ∀ token ∈ tokens, token.column < column + text.length := by
  obtain ⟨tokens, progress', passes, stops, early⟩ :=
    exists_passes_of_isApart text reaches whole bracket
  refine ⟨tokens, progress', passes, fun e after stop => ?_, early⟩
  apply stops e after (Lexeme.isApart_of_isStop stop)
  intro quote
  rw [Lexeme.isQuote_of_isStop stop] at quote
  contradiction

/-! ## The exception -/

/-- A lexeme in front of `(/` that does not go through it ends in front of
it. -/
theorem tail_le_of_bracket {depth : Nat} {c : Char} {after : List Char} {lexeme : Lexeme}
    (read : Lexeme.read? depth (c :: (text ++ '(' :: '/' :: after)) = some lexeme)
    (short : lexeme.tail ≤ text.length + 2) : lexeme.tail ≤ text.length := by
  rcases Lexeme.tail_le_of_isStop (by decide) read with le | ⟨quote, closed⟩
  · exact le
  -- A literal would have to close with the bracket or the slash.
  · have last := Lexeme.getElem?_closingQuote? closed
    by_contra beyond
    obtain here | next : lexeme.tail - 1 = text.length ∨ lexeme.tail - 1 = text.length + 1 := by
      omega
    · rw [here, List.getElem?_append_right (Nat.le_refl _), Nat.sub_self] at last
      cases last
      contradiction
    · rw [next, List.getElem?_append_right (Nat.le_add_right _ 1), Nat.add_sub_cancel_left] at last
      cases last
      contradiction

theorem whole_of_le {place : Nat} {cs : List Char} (le : place ≤ column) :
    Whole place (readRest line column progress cs) := by
  intro token member code
  exact .inr (le.trans (token_of_readRest line column progress cs token member code).2.2.1)

theorem whole_of_noCode {place : Nat} {reading : Reading}
    (noCode : ∀ token ∈ reading.1, token.isCode = false) : Whole place reading := by
  intro token member code
  rw [noCode token member] at code
  contradiction

/-- A code token that does not go through the gap in `(/)` does not go through
the place in front of it either. -/
theorem whole_of_bracket (text : List Char) {after : List Char}
    (whole : Whole (column + text.length + 2)
      (readRest line column progress (text ++ '(' :: '/' :: after))) :
    Whole (column + text.length)
      (readRest line column progress (text ++ '(' :: '/' :: after)) := by
  generalize cs_eq : text ++ '(' :: '/' :: after = cs at whole
  fun_induction readRest line column progress cs generalizing text with
  | case1 column progress => exact absurd cs_eq (by simp)
  | case2 column progress c cs gap ih =>
    cases text with
    | nil => exact whole_of_le (Nat.le_succ column)
    | cons d text =>
      rw [List.cons_append] at cs_eq
      obtain ⟨rfl, rfl⟩ := List.cons_eq_cons.mp cs_eq
      rw [List.length_cons, Nat.add_comm text.length 1, ← Nat.add_assoc] at whole ⊢
      exact ih text rfl whole
  | case3 column progress cs =>
    apply whole_of_noCode
    rw [emit, List.forall_mem_cons]
    exact ⟨rfl, isCode_close progress '\n' line _⟩
  | case4 column progress cs =>
    exact whole_of_noCode (noCode_afterMarker line column progress cs).2
  | case5 column progress cs tokens ending read noGap noComment noMarker ih =>
    cases text with
    | nil => exact absurd cs_eq (by simp)
    | cons d text =>
      rw [List.cons_append] at cs_eq
      obtain ⟨rfl, rfl⟩ := List.cons_eq_cons.mp cs_eq
      rw [List.length_cons, Nat.add_comm text.length 1, ← Nat.add_assoc] at whole ⊢
      have wholeRest := ih text rfl (by
        rw [read]
        exact fun token member => whole token (List.mem_append_right _ member))
      rw [read] at wholeRest
      intro token member code
      rcases List.mem_append.mp member with close | later
      · rw [isCode_close progress ';' line column token close] at code
        contradiction
      · exact wholeRest token later code
  | case6 column progress c cs noGap noComment noMarker noEnd lexeme read ih =>
    cases text with
    | nil =>
      intro token member code
      rcases List.mem_cons.mp member with rfl | later
      · exact .inr (Nat.le_refl column)
      · exact whole_of_le (by rw [List.length_nil]; omega) token later code
    | cons d text =>
      rw [List.cons_append] at cs_eq
      obtain ⟨rfl, rfl⟩ := List.cons_eq_cons.mp cs_eq
      have within := Lexeme.tail_lt_length read
      have inside : lexeme.tail ≤ text.length := by
        apply tail_le_of_bracket read
        rcases whole _ List.mem_cons_self (Lexeme.isCode_read? read) with ends | starts
        · simp only [Token.onLine, List.length_cons, List.length_take] at ends within
          omega
        · simp only [Token.onLine, List.length_cons] at starts
          omega
      obtain ⟨more, text, rfl, length_eq⟩ : ∃ more rest, text = more ++ rest ∧
          more.length = lexeme.tail :=
        ⟨text.take lexeme.tail, text.drop lexeme.tail, (List.take_append_drop ..).symm,
          List.length_take_of_le inside⟩
      have place_eq : column + (d :: (more ++ text)).length =
          column + 1 + lexeme.tail + text.length := by
        rw [List.length_cons, List.length_append]
        omega
      have dropped : (more ++ text ++ '(' :: '/' :: after).drop lexeme.tail =
          text ++ '(' :: '/' :: after := by
        rw [List.append_assoc, ← length_eq, List.drop_left]
      rw [place_eq] at whole ⊢
      intro token member code
      rcases List.mem_cons.mp member with rfl | later
      · simp only [Token.onLine, List.length_cons, List.length_take]
        omega
      · exact ih text dropped.symm
          (fun token member => whole token (List.mem_cons_of_mem _ member)) token later code
  | case7 column progress c cs =>
    exact whole_of_noCode (isCode_carry line column progress _ (c :: cs))
  | case8 column progress c cs => exact whole_of_noCode (isCode_close progress '\n' line _)

end Line

end FortranStyle
