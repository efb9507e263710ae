import FortranStyle.Proofs.Reading.Passage

/-!
# Cutting a line

A line with a gap between two of its tokens is a passage up to the gap, whatever
it continues.  So with a marker in the gap it reads the same tokens and is
suspended there, and what stands behind the gap reads on the next line as it
would have read here.
-/

namespace FortranStyle.Line

variable {line column : Nat} {progress : Progress} {pending : Option Suspended}
  {gaps text rest : List Char}

/-! ## Blanks in front -/

/-- The first character that is not blank is looked for in one text and then in
the other. -/
theorem head?_trim_append (first second : List Char) :
    (Text.trim (first ++ second)).head? =
      (Text.trim first).head?.or (Text.trim second).head? := by
  rw [head?_trim, head?_trim, head?_trim, List.dropWhile_append]
  cases dropped : first.dropWhile Text.isBlank with
  | nil => simp
  | cons c rest => simp

theorem leading_append_cons {c : Char} (onlyGaps : ∀ c ∈ gaps, Text.isGap c = true)
    (filled : Text.isGap c = false) (rest : List Char) :
    Lexeme.leading Text.isGap (gaps ++ c :: rest) = gaps.length ∧
      (gaps ++ c :: rest).dropWhile Text.isGap = c :: rest := by
  constructor
  · rw [Lexeme.leading, List.takeWhile_append_of_pos onlyGaps]
    simp [filled]
  · rw [List.dropWhile_append_of_pos onlyGaps]
    simp [filled]

/-- Behind the first character that is not of a class, a text goes on with what is
put behind it. -/
theorem dropWhile_append_of_ne_nil {p : Char → Bool} {cs : List Char}
    (filled : cs.dropWhile p ≠ [])
    (after : List Char) :
    (cs ++ after).dropWhile p = cs.dropWhile p ++ after ∧
      Lexeme.leading p (cs ++ after) = Lexeme.leading p cs := by
  have dropped : (cs ++ after).dropWhile p = cs.dropWhile p ++ after := by
    rw [List.dropWhile_append, if_neg (by rwa [List.isEmpty_iff])]
  refine ⟨dropped, ?_⟩
  have whole := congrArg List.length (List.takeWhile_append_dropWhile (p := p) (l := cs ++ after))
  have part := congrArg List.length (List.takeWhile_append_dropWhile (p := p) (l := cs))
  rw [dropped] at whole
  simp only [List.length_append] at whole part
  unfold Lexeme.leading
  omega

/-- Gaps in front of the rest of a line only move its column. -/
theorem readRest_gaps (onlyGaps : ∀ c ∈ gaps, Text.isGap c = true) (rest : List Char) :
    readRest line column progress (gaps ++ rest) =
      readRest line (column + gaps.length) progress rest := by
  induction gaps generalizing column with
  | nil => rfl
  | cons c gaps ih =>
    rw [List.forall_mem_cons] at onlyGaps
    rw [List.cons_append, readRest, if_pos onlyGaps.1, ih onlyGaps.2, List.length_cons,
      Nat.add_assoc, Nat.add_comm 1]

/-- Where something begins, the first character behind the gaps is one that a
line may start with. -/
theorem first_of_begins {place : Nat}
    (begins : Begins place (readRest line column progress text)) :
    ∃ gaps c rest, text = gaps ++ c :: rest ∧ (∀ c ∈ gaps, Text.isGap c = true) ∧
      Text.isBlank c = false ∧ c ≠ '!' ∧ c ≠ '&' := by
  fun_induction readRest line column progress text with
  | case1 column progress =>
    exact absurd begins (not_begins_of_noCode (isCode_close progress '\n' line column) rfl)
  | case2 column progress c rest gap ih =>
    obtain ⟨gaps, d, more, rfl, onlyGaps, visible⟩ := ih begins
    exact ⟨c :: gaps, d, more, rfl, List.forall_mem_cons.mpr ⟨gap, onlyGaps⟩, visible⟩
  | case3 column progress rest =>
    refine absurd begins (not_begins_of_noCode ?_ rfl)
    rw [emit, List.forall_mem_cons]
    exact ⟨rfl, isCode_close progress '\n' line _⟩
  | case4 column progress rest =>
    obtain ⟨nothing, noCode⟩ := noCode_afterMarker line column progress rest
    exact absurd begins (not_begins_of_noCode noCode nothing)
  | case5 column progress rest =>
    exact ⟨[], ';', rest, rfl, List.forall_mem_nil _, by decide, by decide, by decide⟩
  | case6 column progress c rest noGap noComment noMarker noEnd lexeme read =>
    have visible := (Lexeme.visible_of_read? read).1
    exact ⟨[], c, rest, rfl, List.forall_mem_nil _, visible, noComment, noMarker⟩
  | case7 column progress c rest noGap noComment noMarker noEnd read quote =>
    have visible : Text.isBlank c = false := by
      simp only [Lexeme.isQuote, Bool.or_eq_true, beq_iff_eq] at quote
      rcases quote with rfl | rfl <;> decide
    exact ⟨[], c, rest, rfl, List.forall_mem_nil _, visible, noComment, noMarker⟩
  | case8 column progress c rest =>
    exact absurd begins (not_begins_of_noCode (isCode_close progress '\n' line _) rfl)

/-! ## The line behind the cut -/

/-- The blanks, and perhaps a leading marker, with which a line goes on. -/
def IsLead (lead : List Char) : Prop :=
  ∃ blanks, (∀ c ∈ blanks, Text.isGap c = true) ∧ (lead = blanks ∨ lead = blanks ++ ['&'])

theorem isSilent_eq_false_of_first {c : Char} (onlyGaps : ∀ c ∈ gaps, Text.isGap c = true)
    (filled : Text.isBlank c = false) (noComment : c ≠ '!') (rest : List Char) :
    isSilent (gaps ++ c :: rest) = false := by
  have blanks : ∀ c ∈ gaps, Text.isBlank c = true :=
    fun c member => Text.isBlank_of_isGap (onlyGaps c member)
  have first : (Text.trim (gaps ++ c :: rest)).head? = some c := by
    rw [head?_trim_append, head?_trim (c :: rest), trim_eq_nil_iff.mpr blanks]
    simp [filled]
  rw [isSilent, first]
  simp [noComment]

theorem isGap_eq_false {c : Char} (filled : Text.isBlank c = false) : Text.isGap c = false := by
  rw [Bool.eq_false_iff]
  intro gap
  rw [Text.isBlank_of_isGap gap] at filled
  contradiction

/-- What begins behind a marker is read on the next line as it would have been
read on its own, behind blanks and perhaps a leading marker. -/
theorem read_continued (marker : Nat) {place : Nat} {lead : List Char} (isLead : IsLead lead)
    (begins : Begins place (readRest line column progress text)) :
    ∃ marks, (∀ token ∈ marks, token.kind = .continuation) ∧
      read (line + 1) (some ⟨line, marker, progress, none⟩) (lead ++ text) =
        prepend marks (readRest (line + 1) (lead.length + 1) progress text) := by
  obtain ⟨blanks, onlyBlanks, rfl | rfl⟩ := isLead
  · obtain ⟨gaps, c, rest, rfl, onlyGaps, filled, noComment, noMarker⟩ := first_of_begins begins
    have allGaps : ∀ c ∈ lead ++ gaps, Text.isGap c = true := by
      intro c member
      rcases List.mem_append.mp member with here | later
      · exact onlyBlanks c here
      · exact onlyGaps c later
    have code := isSilent_eq_false_of_first allGaps filled noComment rest
    obtain ⟨column_eq, body_eq⟩ := leading_append_cons allGaps (isGap_eq_false filled) rest
    refine ⟨[], List.forall_mem_nil _, ?_⟩
    rw [← List.append_assoc, read_some _ code, body_eq, prepend_nil, readRest_gaps onlyGaps]
    · rw [firstColumn, column_eq, List.length_append, Nat.add_right_comm]
      rfl
    · rw [body_eq, List.head?_cons]
      exact fun same => noMarker (Option.some.inj same)
  · rw [List.append_assoc, List.singleton_append]
    have code := isSilent_eq_false_of_first (c := '&') onlyBlanks (by decide) (by decide) text
    obtain ⟨column_eq, body_eq⟩ := leading_append_cons (c := '&') onlyBlanks (by decide) text
    refine ⟨[Token.onLine .continuation (line + 1) (firstColumn (blanks ++ '&' :: text)) ['&']],
      List.forall_mem_singleton.mpr rfl, ?_⟩
    rw [read_some_marker _ code body_eq, firstColumn, column_eq, List.length_append]
    rfl

/-! ## The line in front of the cut -/

/-- A reading goes on behind so many characters of a line: a code token or a
literal begins behind them, and no code token straddles their end. -/
structure GoesOn (line length : Nat) (reading : Reading) : Prop where
  behind :
    (∃ token ∈ reading.1, token.isCode = true ∧ token.line = line ∧ length < token.column) ∨
      ∃ literal ∈ openLiteral? reading.2.pending, literal.line = line ∧ length < literal.column
  whole : ∀ token ∈ reading.1, token.isCode = true →
    token.endColumn ≤ length ∨ token.line = line ∧ length < token.column

theorem GoesOn.of_prepend {length : Nat} {tokens : List Token} {reading : Reading}
    (early : ∀ token ∈ tokens, token.isCode = true → ¬(token.line = line ∧ length < token.column))
    (goesOn : GoesOn line length (prepend tokens reading)) : GoesOn line length reading := by
  constructor
  · rcases goesOn.behind with ⟨token, member, code, place⟩ | opens
    · rcases List.mem_append.mp member with here | later
      · exact absurd place (early token here code)
      · exact .inl ⟨token, later, code, place⟩
    · exact .inr opens
  · exact fun token member => goesOn.whole token (List.mem_append_right _ member)

/-- What stands directly in front of a cut is the same with the cut and without
it, but in the gap of `(/)`: two tokens there are one with the cut. -/
structure Agree (bracket : Prop) (whole cut : List Token) (progress progress' : Progress) :
    Prop where
  same : ¬bracket → whole = [] ∧ cut = [] ∧ progress = progress'
  fused : bracket → whole.map Token.face = [(.operator, "("), (.operator, "/")] ∧
    cut.map Token.face = [(.operator, "(/")]

/-- The text up to a place is read in front of what follows it as it is in front
of a stop, but for the gap of `(/)`. -/
def CutsAt (line length : Nat) (bracket : Prop) (reading : List Char → Reading)
    (rest : List Char) : Prop :=
  ∃ tokens whole cut progress progress', Agree bracket whole cut progress progress' ∧
    reading rest = prepend (tokens ++ whole) (readRest line (length + 1) progress rest) ∧
    (∀ e after, Lexeme.isStop e = true → Text.isBlank e = false → e ≠ '!' → e ≠ '#' →
      reading (e :: after) =
        prepend (tokens ++ cut) (readRest line (length + 1) progress' (e :: after))) ∧
    Begins (length + 1) (readRest line (length + 1) progress rest)

namespace CutsAt

variable {length : Nat} {bracket bracket' : Prop} {reading reading' : List Char → Reading}

theorem congr (iff : bracket' ↔ bracket) (same : reading' rest = reading rest)
    (sameStop : ∀ e after, Lexeme.isStop e = true → Text.isBlank e = false → e ≠ '!' →
      e ≠ '#' → reading' (e :: after) = reading (e :: after))
    (cuts : CutsAt line length bracket reading rest) :
    CutsAt line length bracket' reading' rest := by
  obtain ⟨tokens, whole, cut, progress, progress', agree, read_eq, stops, begins⟩ := cuts
  refine ⟨tokens, whole, cut, progress, progress', ?_, same.trans read_eq, ?_, begins⟩
  · rwa [iff]
  · intro e after stop filled noComment noDirective
    exact (sameStop e after stop filled noComment noDirective).trans
      (stops e after stop filled noComment noDirective)

theorem prepend (marks : List Token) (cuts : CutsAt line length bracket reading rest) :
    CutsAt line length bracket (fun rest => Line.prepend marks (reading rest)) rest := by
  obtain ⟨tokens, whole, cut, progress, progress', agree, read_eq, stops, begins⟩ := cuts
  refine ⟨marks ++ tokens, whole, cut, progress, progress', agree, ?_, ?_, begins⟩
  · dsimp only
    rw [read_eq, prepend_prepend, List.append_assoc]
  · intro e after stop filled noComment noDirective
    dsimp only
    rw [stops e after stop filled noComment noDirective, prepend_prepend, List.append_assoc]

end CutsAt

/-- A text is in the middle of `(/)` exactly when its end is, behind another
character than these. -/
theorem bracket_append_iff {first second : List Char}
    (other : ∀ c ∈ first.getLast?, c ≠ '(' ∧ c ≠ '/') :
    Bracket (first ++ second) rest ↔ Bracket second rest := by
  refine ⟨?_, Bracket.of_suffix (List.suffix_append first second)⟩
  rintro ⟨suffix, close⟩
  refine ⟨?_, close⟩
  rw [← List.reverse_prefix, List.reverse_append] at suffix
  rw [← List.reverse_prefix]
  have last : ∀ c ∈ first.reverse.head?, c ≠ '(' ∧ c ≠ '/' := by
    rwa [List.head?_reverse]
  -- Read backwards, the end of the text begins in the second part or in the first.
  change ['/', '('] <+: second.reverse ++ first.reverse at suffix
  change ['/', '('] <+: second.reverse
  generalize second.reverse = reversed at suffix ⊢
  cases reversed with
  | nil =>
    rw [List.nil_append] at suffix
    obtain ⟨more, spelled⟩ := suffix
    rw [← spelled] at last
    exact absurd rfl (last '/' rfl).2
  | cons c more =>
    rw [List.cons_append, List.cons_prefix_cons] at suffix
    rw [List.cons_prefix_cons]
    refine ⟨suffix.1, ?_⟩
    cases more with
    | nil =>
      obtain ⟨more, spelled⟩ := suffix.2
      rw [List.nil_append] at spelled
      rw [← spelled] at last
      exact absurd rfl (last '(' rfl).1
    | cons d more =>
      have next := suffix.2
      rw [List.cons_append, List.cons_prefix_cons] at next
      rw [List.cons_prefix_cons]
      exact ⟨next.1, List.nil_prefix⟩

/-- The rest of a line up to the middle of `(/)`. -/
theorem readRest_cut_bracket {length : Nat} {after : List Char}
    (length_eq : column + (text ++ ['(', '/']).length = length + 1)
    (whole : Whole (length + 1)
      (readRest line column progress (text ++ ['(', '/'] ++ ')' :: after)))
    (begins : Begins (length + 1)
      (readRest line column progress (text ++ ['(', '/'] ++ ')' :: after))) :
    CutsAt line length True
      (fun rest => readRest line column progress (text ++ ['(', '/'] ++ rest))
      (')' :: after) := by
  rw [List.length_append, List.length_cons, List.length_singleton, ← Nat.add_assoc] at length_eq
  have shape : ∀ rest, text ++ ['(', '/'] ++ rest = text ++ '(' :: '/' :: rest := by
    intro rest
    rw [List.append_assoc]
    rfl
  rw [shape, ← length_eq] at whole begins
  have beginsEarlier : Begins (column + text.length)
      (readRest line column progress (text ++ '(' :: '/' :: ')' :: after)) :=
    begins.of_le (by omega)
  obtain ⟨tokens, progress', passes, stops, early⟩ :=
    exists_passes text (.inl beginsEarlier) (whole_of_bracket text whole)
      (fun inner => absurd inner.2 (by simp))
  rw [Passes] at passes
  let opening := Token.onLine .operator line (column + text.length) ['(']
  let slash := Token.onLine .operator line (column + text.length + 1) ['/']
  let fused := Token.onLine .operator line (column + text.length) ['(', '/']
  have first : readRest line (column + text.length) progress' ('(' :: '/' :: ')' :: after) =
      emit opening (readRest line (column + text.length + 1) ⟨true, progress'.constructors⟩
        ('/' :: ')' :: after)) :=
    readRest_lexeme (Lexeme.read?_bracket_alone _ _)
  -- With a constructor open, the slash and the second bracket would be one token.
  have noConstructor : progress'.constructors = 0 := by
    by_contra nonzero
    obtain ⟨depth, depth_eq⟩ := Nat.exists_eq_succ_of_ne_zero nonzero
    rw [passes, first, depth_eq, readRest_lexeme (Lexeme.read?_slash_close depth after)] at whole
    rcases whole _ (List.mem_append_right _ (List.mem_cons_of_mem _ List.mem_cons_self)) rfl with
      ends | starts
    · simp [Token.onLine] at ends
    · simp [Token.onLine] at starts
  have second : readRest line (column + text.length + 1) ⟨true, progress'.constructors⟩
      ('/' :: ')' :: after) =
        emit slash (readRest line (column + text.length + 1 + 1) ⟨true, 0⟩ (')' :: after)) := by
    have read : Lexeme.read? (Progress.mk true 0).constructors ('/' :: ')' :: after) =
        some ⟨.operator, 0, 0⟩ := Lexeme.read?_slash_alone after
    rw [noConstructor]
    exact readRest_lexeme read
  have passesBoth : readRest line column progress (text ++ '(' :: '/' :: ')' :: after) =
      prepend (tokens ++ [opening, slash])
        (readRest line (column + text.length + 1 + 1) ⟨true, 0⟩ (')' :: after)) := by
    rw [passes, first, second, ← prepend_prepend]
    rfl
  have agree : Agree True [opening, slash] [fused] ⟨true, 0⟩ ⟨true, 1⟩ :=
    ⟨fun no => absurd trivial no, fun _ => ⟨rfl, rfl⟩⟩
  refine ⟨tokens, [opening, slash], [fused], ⟨true, 0⟩, ⟨true, 1⟩, agree, ?_, ?_, ?_⟩
  · dsimp only
    rw [shape, passesBoth, ← length_eq]
  · intro e rest stop _ _ _
    have third : readRest line (column + text.length) progress' ('(' :: '/' :: e :: rest) =
        emit fused (readRest line (column + text.length + 1 + 1) ⟨true, 1⟩ (e :: rest)) := by
      have read : Lexeme.read? progress'.constructors ('(' :: '/' :: e :: rest) = _ :=
        Lexeme.read?_bracket_stop stop progress'.constructors
      rw [readRest_lexeme read, noConstructor]
      rfl
    have same := stops '(' ('/' :: e :: rest) (by decide)
    rw [Passes, third] at same
    dsimp only
    rw [shape, same, ← length_eq, ← prepend_prepend]
    rfl
  · rw [passesBoth] at begins
    rw [← length_eq]
    apply begins.of_prepend
    intro token member _
    rcases List.mem_append.mp member with here | later
    · have column_lt := early token here
      omega
    · rw [List.mem_cons, List.mem_singleton] at later
      rcases later with rfl | rfl
      · simp [opening, Token.onLine]
      · simp [slash, Token.onLine]

/-- The rest of a line with a gap is a passage up to the gap. -/
theorem readRest_cut {length : Nat} (length_eq : column + text.length = length + 1)
    (goesOn : GoesOn line length (readRest line column progress (text ++ rest))) :
    CutsAt line length (Bracket text rest)
      (fun rest => readRest line column progress (text ++ rest)) rest := by
  have begins : Begins (length + 1) (readRest line column progress (text ++ rest)) := by
    rcases goesOn.behind with ⟨token, member, code, -, le⟩ | ⟨literal, found, -, le⟩
    · exact .inl ⟨token, member, code, le⟩
    · exact .inr ⟨literal, found, le⟩
  have whole : Whole (length + 1) (readRest line column progress (text ++ rest)) := by
    intro token member code
    rcases goesOn.whole token member code with ends | ⟨-, starts⟩
    · exact .inl (Nat.lt_succ_of_le ends)
    · exact .inr starts
  by_cases bracket : Bracket text rest
  · obtain ⟨⟨text, rfl⟩, close⟩ := bracket
    obtain ⟨after, rfl⟩ := List.head?_eq_some_iff.mp close
    exact (readRest_cut_bracket length_eq whole begins).congr
      (iff_true_intro ⟨List.suffix_append _ _, rfl⟩) rfl (fun _ _ _ _ _ _ => rfl)
  · rw [← length_eq] at begins whole
    obtain ⟨tokens, progress', passes, stops, early⟩ :=
      exists_passes text (.inl begins) whole bracket
    have agree : Agree (Bracket text rest) [] [] progress' progress' :=
      ⟨fun _ => ⟨rfl, rfl, rfl⟩, fun inner => absurd inner bracket⟩
    rw [Passes] at passes
    refine ⟨tokens, [], [], progress', progress', agree, ?_, ?_, ?_⟩
    · rw [List.append_nil, ← length_eq]
      exact passes
    · intro e after stop _ _ _
      rw [List.append_nil, ← length_eq]
      exact stops e after stop
    · rw [passes] at begins
      rw [← length_eq]
      exact begins.of_prepend fun token member _ => early token member

/-- The token of a literal that is carried over and closes on a line. -/
def closedLiteral (line column : Nat) (literal : OpenLiteral) (part : List Char) : Token :=
  { kind := .string, text := String.ofList (literal.text ++ part), line := literal.line,
    column := literal.column, endLine := line, endColumn := column }

/-- A literal that closes in a text closes there whatever follows the text. -/
theorem resumeLiteral_append {literal : OpenLiteral} {body : Nat}
    (closed : Lexeme.closingQuote? literal.quote (text ++ rest) = some body)
    (inside : body < text.length) :
    resumeLiteral line column progress literal (text ++ rest) =
      emit (closedLiteral line (column + body) literal (text.take (body + 1)))
        (readRest line (column + body + 1) ⟨true, progress.constructors⟩
          (text.drop (body + 1) ++ rest)) := by
  rw [resumeLiteral, closed]
  dsimp only
  rw [List.take_append_of_le_length inside, List.drop_append_of_le_length inside]
  rfl

/-- A literal that is carried over closes in front of a gap. -/
theorem resumeLiteral_cut {length : Nat} {literal : OpenLiteral} (above : Above line literal)
    (length_eq : column + text.length = length + 1)
    (goesOn : GoesOn line length (resumeLiteral line column progress literal (text ++ rest))) :
    CutsAt line length (Bracket text rest)
      (fun rest => resumeLiteral line column progress literal (text ++ rest)) rest := by
  obtain ⟨line_lt, quote⟩ := above
  cases closed : Lexeme.closingQuote? literal.quote (text ++ rest) with
  | none =>
    rw [resumeLiteral, closed] at goesOn
    rcases goesOn.behind with ⟨token, member, code, -⟩ | ⟨other, found, line_eq, -⟩
    · rw [isCode_carry line column progress literal _ token member] at code
      contradiction
    · have place_eq := (openLiteral?_carry found).1
      have same : other.line = literal.line := congrArg Prod.fst place_eq
      omega
  | some body =>
    have ends : column + body ≤ length := by
      rw [resumeLiteral, closed] at goesOn
      rcases goesOn.whole _ List.mem_cons_self rfl with ends | ⟨line_eq, -⟩
      · exact ends
      · exact absurd line_eq (Nat.ne_of_lt line_lt)
    have inside : body < text.length := by omega
    rw [resumeLiteral_append closed inside, ← prepend_nil (readRest ..), emit_prepend] at goesOn
    have goesOnRest := goesOn.of_prepend (by
      intro token member code place
      rw [List.mem_singleton] at member
      subst member
      exact absurd place.1 (Nat.ne_of_lt line_lt))
    have column_eq : column + body + 1 + (text.drop (body + 1)).length = length + 1 := by
      rw [List.length_drop]
      omega
    have last : ∀ c ∈ (text.take (body + 1)).getLast?, c ≠ '(' ∧ c ≠ '/' := by
      have spelled := Lexeme.getElem?_closingQuote? closed
      rw [List.getElem?_append_left inside] at spelled
      intro c member
      rw [Option.mem_def, List.getLast?_take, if_neg (Nat.succ_ne_zero body), Nat.add_sub_cancel,
        spelled, Option.some_or, Option.some.injEq] at member
      subst member
      constructor <;>
      · intro same
        rw [same] at quote
        contradiction
    have iff : Bracket (text.take (body + 1) ++ text.drop (body + 1)) rest ↔
        Bracket (text.drop (body + 1)) rest := bracket_append_iff last
    rw [List.take_append_drop] at iff
    have cut := (readRest_cut column_eq goesOnRest).prepend
      [closedLiteral line (column + body) literal (text.take (body + 1))]
    refine cut.congr iff (resumeLiteral_append closed inside) ?_
    intro e after stop _ _ _
    have other : e ≠ literal.quote := by
      rintro rfl
      rw [Lexeme.isQuote_of_isStop stop] at quote
      contradiction
    exact resumeLiteral_append (Lexeme.closingQuote?_replace other closed inside) inside

/-- What a line goes on with is a passage up to a gap in it. -/
theorem resume_cut {length : Nat} {pending : Suspended}
    (above : ∀ literal ∈ pending.literal, Above line literal)
    (length_eq : column + text.length = length + 1)
    (goesOn : GoesOn line length (resume line column pending (text ++ rest))) :
    CutsAt line length (Bracket text rest)
      (fun rest => resume line column pending (text ++ rest)) rest := by
  obtain ⟨markerLine, markerColumn, progress, carried⟩ := pending
  cases carried with
  | none => exact readRest_cut length_eq goesOn
  | some literal => exact resumeLiteral_cut (above literal rfl) length_eq goesOn

/-- The first character of a line that is not blank stays another one than `d`
when the end of the line is replaced by something that starts otherwise. -/
theorem head?_trim_replace {d e : Char} (other : (Text.trim (text ++ rest)).head? ≠ some d)
    (filled : Text.isBlank e = false) (differs : e ≠ d) (after : List Char) :
    (Text.trim (text ++ e :: after)).head? ≠ some d := by
  rw [head?_trim_append] at *
  cases first : (Text.trim text).head? with
  | none =>
    rw [Option.none_or, head?_trim]
    simpa [filled] using differs
  | some c =>
    rw [first, Option.some_or] at other
    rwa [Option.some_or]

theorem isSilent_replace {e : Char} (code : isSilent (text ++ rest) = false)
    (filled : Text.isBlank e = false) (noComment : e ≠ '!') (after : List Char) :
    isSilent (text ++ e :: after) = false := by
  rw [isSilent_eq_false_iff] at *
  refine ⟨?_, head?_trim_replace code.2 filled noComment after⟩
  rw [ne_eq, trim_eq_nil_iff]
  intro blank
  have blankEnd := blank e (List.mem_append_right _ List.mem_cons_self)
  rw [filled] at blankEnd
  contradiction

/-- A silent line and a directive do not go on anywhere. -/
theorem not_goesOn_of_noCode {length : Nat} {reading : Reading}
    (above : ∀ literal ∈ openLiteral? reading.2.pending, literal.line < line)
    (noCode : ∀ token ∈ reading.1, token.isCode = false) : ¬GoesOn line length reading := by
  rintro ⟨⟨token, member, code, -⟩ | ⟨literal, found, line_eq, -⟩, -⟩
  · rw [noCode token member] at code
    contradiction
  · exact absurd line_eq (Nat.ne_of_lt (above literal found))

/-- Where code ends in front of a cut, something else than gaps stands there. -/
theorem exists_gaps_cons {token : Token} (member : token ∈ (read line pending (text ++ rest)).1)
    (code : token.isCode = true) (before : token.endColumn ≤ text.length) :
    ∃ gaps c more, text = gaps ++ c :: more ∧ (∀ c ∈ gaps, Text.isGap c = true) ∧
      Text.isGap c = false := by
  have from_le := (token_of_read line pending _ token member code).2.1
  have first : Lexeme.leading Text.isGap (text ++ rest) < text.length :=
    Nat.lt_of_lt_of_le (Nat.lt_of_succ_le from_le) before
  cases dropped : text.dropWhile Text.isGap with
  | nil =>
    rw [Lexeme.leading, List.takeWhile_append_of_pos (List.dropWhile_eq_nil_iff.mp dropped),
      List.length_append] at first
    omega
  | cons c more =>
    have filled := List.head?_dropWhile_not Text.isGap text
    rw [dropped, List.head?_cons] at filled
    refine ⟨text.takeWhile Text.isGap, c, more, ?_, ?_, filled⟩
    · rw [← dropped, List.takeWhile_append_dropWhile]
    · exact fun d member => List.mem_takeWhile_imp member

/-- A line is a passage up to a gap in it, when code ends in front of the
gap. -/
theorem read_cut (above : ∀ literal ∈ openLiteral? pending, Above line literal)
    (before : ∃ token ∈ (read line pending (text ++ rest)).1,
      token.isCode = true ∧ token.endColumn ≤ text.length)
    (goesOn : GoesOn line text.length (read line pending (text ++ rest))) :
    CutsAt line text.length (Bracket text rest) (fun rest => read line pending (text ++ rest))
      rest := by
  obtain ⟨token, member, code, le⟩ := before
  obtain ⟨gaps, c, more, rfl, onlyGaps, filled⟩ := exists_gaps_cons member code le
  have shape : ∀ rest, gaps ++ c :: more ++ rest = gaps ++ c :: (more ++ rest) := by
    intro rest
    rw [List.append_assoc, List.cons_append]
  have column_eq : ∀ rest, firstColumn (gaps ++ c :: more ++ rest) = gaps.length + 1 := by
    intro rest
    rw [firstColumn, shape, (leading_append_cons onlyGaps filled _).1]
  have body_eq :
      ∀ rest, (gaps ++ c :: more ++ rest).dropWhile Text.isGap = c :: (more ++ rest) := by
    intro rest
    rw [shape, (leading_append_cons onlyGaps filled _).2]
  have bracketText : Bracket (gaps ++ c :: more) rest ↔ Bracket (c :: more) rest := by
    apply bracket_append_iff
    intro d member
    have gap := onlyGaps d (List.mem_of_getLast? member)
    constructor <;>
    · rintro rfl
      contradiction
  have length_eq : gaps.length + 1 + (c :: more).length = (gaps ++ c :: more).length + 1 := by
    rw [List.length_append]
    omega
  cases silent : isSilent (gaps ++ c :: more ++ rest) with
  | true =>
    rw [read_of_isSilent silent] at goesOn
    refine absurd goesOn (not_goesOn_of_noCode ?_ ?_)
    · rw [pending_unchanged]
      exact fun literal found => (above literal found).line_lt
    · intro token member
      dsimp only at member
      split at member
      · contradiction
      · rw [List.mem_singleton] at member
        subst member
        rfl
  | false =>
    have silentStop := fun e after filled noComment =>
      isSilent_replace (e := e) silent filled noComment after
    cases pending with
    | none =>
      by_cases directive : (Text.trim (gaps ++ c :: more ++ rest)).head? = some '#'
      · rw [read_none silent, if_pos directive] at goesOn
        refine absurd goesOn (not_goesOn_of_noCode ?_ ?_)
        · rintro literal ⟨⟩
        · rw [List.forall_mem_singleton]
          rfl
      · rw [read_none silent, if_neg directive, column_eq, body_eq] at goesOn
        refine (readRest_cut length_eq goesOn).congr bracketText ?_ ?_
        · rw [read_none silent, if_neg directive, column_eq, body_eq]
          rfl
        · intro e after _ filledStop noComment noDirective
          rw [read_none (silentStop e after filledStop noComment),
            if_neg (head?_trim_replace directive filledStop noDirective after), column_eq, body_eq]
          rfl
    | some suspended =>
      have aboveLiteral : ∀ literal ∈ suspended.literal, Above line literal := above
      by_cases marker : c = '&'
      · subst marker
        let mark := Token.onLine .continuation line (gaps.length + 1) ['&']
        have read_eq : ∀ {rest}, isSilent (gaps ++ '&' :: more ++ rest) = false →
            read line (some suspended) (gaps ++ '&' :: more ++ rest) =
              prepend [mark] (resume line (gaps.length + 1 + 1) suspended (more ++ rest)) := by
          intro rest silent
          rw [read_some_marker suspended silent (body_eq rest), column_eq]
          rfl
        rw [read_eq silent] at goesOn
        have goesOnRest := goesOn.of_prepend (by
          intro token member code
          rw [List.mem_singleton] at member
          subst member
          contradiction)
        have length_eq' :
            gaps.length + 1 + 1 + more.length = (gaps ++ '&' :: more).length + 1 := by
          rw [← length_eq, List.length_cons]
          omega
        have bracketMore : Bracket (['&'] ++ more) rest ↔ Bracket more rest :=
          bracket_append_iff (by simp)
        have cut := resume_cut aboveLiteral length_eq' goesOnRest
        refine (cut.prepend [mark]).congr (bracketText.trans bracketMore) (read_eq silent) ?_
        intro e after _ filledStop noComment _
        exact read_eq (silentStop e after filledStop noComment)
      · have noMarker :
            ∀ rest, ((gaps ++ c :: more ++ rest).dropWhile Text.isGap).head? ≠ some '&' := by
          intro rest
          rw [body_eq, List.head?_cons]
          exact fun same => marker (Option.some.inj same)
        rw [read_some suspended silent (noMarker rest), column_eq, body_eq] at goesOn
        refine (resume_cut aboveLiteral length_eq goesOn).congr bracketText ?_ ?_
        · rw [read_some suspended silent (noMarker rest), column_eq, body_eq]
          rfl
        · intro e after _ filledStop noComment _
          rw [read_some suspended (silentStop e after filledStop noComment) (noMarker _),
            column_eq, body_eq]
          rfl

end FortranStyle.Line
