import FortranStyle.Proofs.LetterCase.Lexeme
import FortranStyle.Proofs.Reading.Order

/-!
# Lines in small letters

The tokens of a lowered line are the lowered tokens of the line, in the same
places, and its error is that of the line: no letter is an unexpected character.
An open literal is carried over in lowered form, and its quote, which is no letter,
is looked for in the next line as before.
-/

namespace FortranStyle.LetterCase

/-! ## Readings -/

/-- Lower a literal that is carried over. -/
def lowerLiteral (literal : OpenLiteral) : OpenLiteral :=
  { literal with text := literal.text.map Char.toLower }

/-- Lower what a line has left open. -/
def lowerSuspended (rest : Suspended) : Suspended :=
  { rest with literal := rest.literal.map lowerLiteral }

/-- Lower the end of a line. -/
def lowerEnd : LineEnd → LineEnd
  | .complete => .complete
  | .suspended rest => .suspended (lowerSuspended rest)
  | .failed error => .failed error

/-- Lower the tokens and the end of a line. -/
def lowerReading (reading : Line.Reading) : Line.Reading :=
  (reading.1.map Transcription.lowering.token, lowerEnd reading.2)

theorem pending_lowerEnd (ending : LineEnd) :
    (lowerEnd ending).pending = ending.pending.map lowerSuspended := by
  cases ending <;> rfl

theorem errors_lowerEnd (ending : LineEnd) : (lowerEnd ending).errors = ending.errors := by
  cases ending <;> rfl

theorem lowerEnd_unchanged (pending : Option Suspended) :
    lowerEnd (.unchanged pending) = .unchanged (pending.map lowerSuspended) := by
  cases pending <;> rfl

theorem token_onLine (kind : TokenKind) (line column : Nat) (text : List Char) :
    Transcription.lowering.token (.onLine kind line column text) =
      .onLine kind line column (text.map Char.toLower) := by
  simp only [Token.onLine, Transcription.token, Transcription.text, String.toList_ofList,
    List.length_map]
  rfl

theorem map_close (progress : Progress) {mark : Char} (other : mark.isAlpha = false)
    (line column : Nat) :
    (progress.close mark line column).map Transcription.lowering.token =
      progress.close mark line column := by
  have kept : mark.toLower = mark := (toLower_eq_iff other).mpr rfl
  unfold Progress.close
  split
  · simp [Token.statementEnd, token_onLine, kept]
  · rfl

theorem lowerReading_emit (token : Token) (reading : Line.Reading) :
    lowerReading (Line.emit token reading) =
      Line.emit (Transcription.lowering.token token) (lowerReading reading) :=
  rfl

theorem lowerReading_fail (progress : Progress) (cause : LexCause) (line column lineEnd : Nat) :
    lowerReading (Line.fail progress cause line column lineEnd) =
      Line.fail progress cause line column lineEnd := by
  rw [Line.fail, lowerReading, map_close progress (by decide)]
  rfl

/-! ## Blanks -/

theorem isGap_toLower (c : Char) : Text.isGap c.toLower = Text.isGap c :=
  toLower_congr (by decide) c

theorem isBlank_toLower (c : Char) : Text.isBlank c.toLower = Text.isBlank c :=
  toLower_congr (by decide) c

theorem isLineEnd_toLower (c : Char) : Text.isLineEnd c.toLower = Text.isLineEnd c :=
  toLower_congr (by decide) c

theorem dropEndWhile_lowered {p : Char → Bool} (same : ∀ c, p c.toLower = p c) (cs : List Char) :
    Text.dropEndWhile p (cs.map Char.toLower) = (Text.dropEndWhile p cs).map Char.toLower := by
  rw [Text.dropEndWhile, ← List.map_reverse, dropWhile_lowered same, ← List.map_reverse,
    Text.dropEndWhile]

theorem trimEnd_lowered (cs : List Char) :
    Text.trimEnd (cs.map Char.toLower) = (Text.trimEnd cs).map Char.toLower :=
  dropEndWhile_lowered isBlank_toLower cs

theorem trim_lowered (cs : List Char) :
    Text.trim (cs.map Char.toLower) = (Text.trim cs).map Char.toLower := by
  rw [Text.trim, dropWhile_lowered isBlank_toLower, trimEnd_lowered, Text.trim]

theorem isSilent_lowered (cs : List Char) :
    Line.isSilent (cs.map Char.toLower) = Line.isSilent cs := by
  rw [Line.isSilent, trim_lowered, Line.isSilent]
  cases Text.trim cs with
  | nil => rfl
  | cons c rest =>
    exact toLower_congr (f := fun c => c == '!') (by decide) c

/-! ## The rest of a line -/

/-- Where a comment or nothing follows the blanks, a comment or a blank follows
the gap. -/
theorem first_of_drop_gap {cs : List Char} {c : Char} {rest : List Char}
    (silent : (cs.dropWhile Text.isBlank).head?.all (· == '!') = true)
    (dropped : cs.drop (Lexeme.leading Text.isGap cs) = c :: rest) :
    c = '!' ∨ Text.isBlank c = true := by
  induction cs with
  | nil => simp at dropped
  | cons d cs ih =>
    by_cases gap : Text.isGap d = true
    · rw [Lexeme.leading_cons_of_pos gap, List.drop_succ_cons] at dropped
      rw [List.dropWhile_cons_of_pos (Text.isBlank_of_isGap gap)] at silent
      exact ih silent dropped
    · rw [Lexeme.leading_cons_of_neg (by simpa using gap), List.drop_zero] at dropped
      obtain rfl := (List.cons.inj dropped).1
      by_cases blank : Text.isBlank d = true
      · exact .inr blank
      · rw [List.dropWhile_cons_of_neg blank] at silent
        exact .inl (by simpa using silent)

theorem afterMarker_lowered (line column : Nat) (progress : Progress) (cs : List Char) :
    Line.afterMarker line column progress (cs.map Char.toLower) =
      lowerReading (Line.afterMarker line column progress cs) := by
  have marker := token_onLine .continuation line column ['&']
  rw [show ['&'].map Char.toLower = ['&'] from rfl] at marker
  have comment (cs : List Char) : (cs.map Char.toLower).head?.all (· == '!') =
      cs.head?.all (· == '!') := by
    cases cs with
    | nil => rfl
    | cons c rest => exact toLower_congr (f := fun c => c == '!') (by decide) c
  simp only [Line.afterMarker, dropWhile_lowered isBlank_toLower, comment,
    leading_lowered isGap_toLower, ← List.map_drop, List.length_map]
  split
  · rename_i silent
    cases dropped : cs.drop (Lexeme.leading Text.isGap cs) with
    | nil => simp [lowerReading, marker, lowerEnd, lowerSuspended]
    | cons c rest =>
      have noCapital : ∀ c ∈ capitals, c ≠ '!' ∧ Text.isBlank c = false :=
        List.all_iff_forall_prop.mp (by decide)
      have kept : c.toLower = c := by
        apply toLower_eq_self
        intro member
        obtain ⟨noComment, noBlank⟩ := noCapital c member
        rcases first_of_drop_gap silent dropped with comment | blank
        · exact noComment comment
        · simp [noBlank] at blank
      simp only [List.map_cons, kept]
      split
      · simp [lowerReading, marker, token_onLine, kept, lowerEnd, lowerSuspended]
      · rw [lowerReading_emit, lowerReading_fail, marker]
  · exact (lowerReading_fail ..).symm

theorem carriedPart?_lowered (cs : List Char) :
    Line.carriedPart? (cs.map Char.toLower) =
      (Line.carriedPart? cs).map (List.map Char.toLower) := by
  have last : ((Text.trimEnd cs).map Char.toLower).getLast? = some '&' ↔
      (Text.trimEnd cs).getLast? = some '&' := by
    rw [List.getLast?_eq_head?_reverse, ← List.map_reverse, head?_lowered (by decide),
      List.getLast?_eq_head?_reverse]
  simp only [Line.carriedPart?, trimEnd_lowered, last]
  split
  · simp
  · rfl

theorem carry_lowered (line column : Nat) (progress : Progress) (literal : OpenLiteral)
    (cs : List Char) :
    Line.carry line column progress (lowerLiteral literal) (cs.map Char.toLower) =
      lowerReading (Line.carry line column progress literal cs) := by
  rw [Line.carry, Line.carry, carriedPart?_lowered]
  cases Line.carriedPart? cs with
  | none =>
    rw [lowerReading_fail, Option.map_none, List.length_map]
    rfl
  | some part =>
    simp [lowerReading, token_onLine, lowerEnd, lowerSuspended, lowerLiteral]

/-- The rest of a lowered line. -/
theorem readRest_lowered (line column : Nat) (progress : Progress) (cs : List Char) :
    Line.readRest line column progress (cs.map Char.toLower) =
      lowerReading (Line.readRest line column progress cs) := by
  have comment (c : Char) : c.toLower = '!' ↔ c = '!' := toLower_eq_iff (by decide)
  have marker (c : Char) : c.toLower = '&' ↔ c = '&' := toLower_eq_iff (by decide)
  have semicolon (c : Char) : c.toLower = ';' ↔ c = ';' := toLower_eq_iff (by decide)
  fun_induction Line.readRest line column progress cs with
  | case1 column progress =>
    rw [List.map_nil, Line.readRest, lowerReading, map_close progress (by decide)]
    rfl
  | case2 column progress c rest gap ih =>
    rw [List.map_cons, Line.readRest, if_pos (by rwa [isGap_toLower])]
    exact ih
  | case3 column progress rest noGap =>
    rw [List.map_cons, Line.readRest, if_neg (by rwa [isGap_toLower]),
      if_pos ((comment _).mpr rfl), lowerReading_emit, token_onLine, List.map_cons,
      List.length_map, lowerReading, map_close progress (by decide)]
    rfl
  | case4 column progress rest noGap noComment =>
    rw [List.map_cons, Line.readRest, if_neg (by rwa [isGap_toLower]),
      if_neg (mt (comment _).mp noComment), if_pos ((marker _).mpr rfl)]
    exact afterMarker_lowered line column progress rest
  | case5 column progress rest tokens ending read noGap noComment noMarker ih =>
    rw [List.map_cons, Line.readRest, if_neg (by rwa [isGap_toLower]),
      if_neg (mt (comment _).mp noComment), if_neg (mt (marker _).mp noMarker),
      if_pos ((semicolon _).mpr rfl), ih, read]
    simp [lowerReading, map_close]
  | case6 column progress c rest noGap noComment noMarker noEnd lexeme read ih =>
    have read' := (read?_lowered progress.constructors (c :: rest)).trans read
    rw [List.map_cons] at read'
    rw [List.map_cons, Line.readRest, if_neg (by rwa [isGap_toLower]),
      if_neg (mt (comment _).mp noComment), if_neg (mt (marker _).mp noMarker),
      if_neg (mt (semicolon _).mp noEnd), read', lowerReading_emit, ← ih, token_onLine,
      List.map_cons, List.map_take, List.map_drop]
  | case7 column progress c rest noGap noComment noMarker noEnd read quote =>
    have read' := (read?_lowered progress.constructors (c :: rest)).trans read
    rw [List.map_cons] at read'
    have kept : c.toLower = c := by
      simp only [Lexeme.isQuote, Bool.or_eq_true, beq_iff_eq] at quote
      rcases quote with rfl | rfl <;> rfl
    rw [List.map_cons, Line.readRest, if_neg (by rwa [isGap_toLower]),
      if_neg (mt (comment _).mp noComment), if_neg (mt (marker _).mp noMarker),
      if_neg (mt (semicolon _).mp noEnd), read']
    simp only [isQuote_toLower, quote, if_true]
    rw [← carry_lowered, List.map_cons, kept]
    rfl
  | case8 column progress c rest noGap noComment noMarker noEnd read noQuote =>
    have read' := (read?_lowered progress.constructors (c :: rest)).trans read
    rw [List.map_cons] at read'
    -- A letter always begins a name, so what cannot be read is no letter.
    have noLetter : c.isAlpha = false := by
      rw [Bool.eq_false_iff]
      intro alpha
      rw [Lexeme.read?_name noQuote alpha] at read
      exact Option.some_ne_none _ read
    rw [List.map_cons, Line.readRest, if_neg (by rwa [isGap_toLower]),
      if_neg (mt (comment _).mp noComment), if_neg (mt (marker _).mp noMarker),
      if_neg (mt (semicolon _).mp noEnd), read']
    simp only [isQuote_toLower, noQuote, if_false, Bool.false_eq_true]
    rw [lowerReading_fail, (toLower_eq_iff noLetter).mpr rfl, List.length_map]

/-! ## Whole lines -/

theorem resume_lowered (line column : Nat) (rest : Suspended)
    (quoted : ∀ literal ∈ rest.literal, Lexeme.isQuote literal.quote = true) (cs : List Char) :
    Line.resume line column (lowerSuspended rest) (cs.map Char.toLower) =
      lowerReading (Line.resume line column rest cs) := by
  obtain ⟨markerLine, markerColumn, progress, literal⟩ := rest
  cases literal with
  | none => exact readRest_lowered line column progress cs
  | some literal =>
    have noLetter : literal.quote.isAlpha = false := by
      have quote := quoted literal rfl
      simp only [Lexeme.isQuote, Bool.or_eq_true, beq_iff_eq] at quote
      rcases quote with same | same <;> rw [same] <;> rfl
    have closing := closingQuote?_lowered noLetter cs
    simp only [Line.resume, lowerSuspended, Option.map_some, Line.resumeLiteral]
    rw [show (lowerLiteral literal).quote = literal.quote from rfl, closing]
    cases Lexeme.closingQuote? literal.quote cs with
    | none => exact carry_lowered line column progress literal cs
    | some body =>
      simp only [← List.map_take, ← List.map_drop, readRest_lowered, lowerReading_emit]
      congr 1
      simp only [Transcription.token, Transcription.text, lowerLiteral, String.toList_ofList,
        List.map_append]
      rfl

/-- A lowered line. -/
theorem read_lowered (line : Nat) (pending : Option Suspended)
    (quoted : ∀ literal ∈ openLiteral? pending, Lexeme.isQuote literal.quote = true)
    (cs : List Char) :
    Line.read line (pending.map lowerSuspended) (cs.map Char.toLower) =
      lowerReading (Line.read line pending cs) := by
  have column_eq : Line.firstColumn (cs.map Char.toLower) = Line.firstColumn cs := by
    rw [Line.firstColumn, leading_lowered isGap_toLower, Line.firstColumn]
  have body_eq := dropWhile_lowered isGap_toLower cs
  cases silent : Line.isSilent cs with
  | true =>
    rw [Line.read_of_isSilent silent, Line.read_of_isSilent ((isSilent_lowered cs).trans silent),
      trim_lowered, column_eq, body_eq, ← lowerEnd_unchanged]
    simp only [List.map_eq_nil_iff]
    split
    · rfl
    · simp [lowerReading, token_onLine]
  | false =>
    have silent' := (isSilent_lowered cs).trans silent
    cases pending with
    | none =>
      rw [Option.map_none, Line.read_none silent, Line.read_none silent', trim_lowered,
        column_eq, body_eq]
      simp only [head?_lowered (d := '#') (by decide)]
      split
      · simp [lowerReading, token_onLine, lowerEnd]
      · exact readRest_lowered ..
    | some rest =>
      rw [Option.map_some]
      by_cases marker : (cs.dropWhile Text.isGap).head? = some '&'
      · obtain ⟨after, after_eq⟩ := List.head?_eq_some_iff.mp marker
        have after_eq' : (cs.map Char.toLower).dropWhile Text.isGap =
            '&' :: after.map Char.toLower := by
          rw [body_eq, after_eq]
          rfl
        rw [Line.read_some_marker rest silent after_eq,
          Line.read_some_marker _ silent' after_eq', lowerReading_emit, token_onLine, column_eq,
          resume_lowered line _ rest quoted]
        rfl
      · have marker' : ((cs.map Char.toLower).dropWhile Text.isGap).head? ≠ some '&' := by
          rwa [body_eq, ne_eq, head?_lowered (by decide)]
        rw [Line.read_some rest silent marker, Line.read_some _ silent' marker', column_eq,
          body_eq, resume_lowered line _ rest quoted]

/-! ## Successive lines -/

/-- Lower the tokens of some lines. -/
def lowerPart (part : Tokenized.Part) : Tokenized.Part :=
  { part with tokens := part.tokens.map Transcription.lowering.token }

theorem lowerPart_append (first second : Tokenized.Part) :
    lowerPart (first ++ second) = lowerPart first ++ lowerPart second := by
  change lowerPart (first.append second) = (lowerPart first).append (lowerPart second)
  simp [lowerPart, Tokenized.Part.append]

/-- Lowered lines read as the lowered tokens of the lines, with the same errors. -/
theorem readLines_lowered {line : Nat} {pending : Option Suspended}
    (above : ∀ literal ∈ openLiteral? pending, Line.Above line literal)
    (lines : List (List Char)) :
    Tokenized.readLines line (pending.map lowerSuspended) (lines.map (List.map Char.toLower)) =
      lowerPart (Tokenized.readLines line pending lines) := by
  induction lines generalizing line pending with
  | nil =>
    cases pending with
    | none => rfl
    | some rest =>
      simp [Tokenized.readLines, Tokenized.danglingPart, lowerPart, lowerSuspended,
        map_close rest.progress (show Char.isAlpha '\n' = false by decide)]
  | cons cs rest ih =>
    have read_eq := read_lowered line pending
      (fun literal carried => (above literal carried).isQuote) cs
    have part_eq : Tokenized.linePart line (pending.map lowerSuspended) (cs.map Char.toLower) =
        lowerPart (Tokenized.linePart line pending cs) := by
      simp only [Tokenized.linePart, read_eq, isSilent_lowered, Option.isSome_map, lowerReading,
        errors_lowerEnd, lowerPart]
    have later := ih fun literal carried => (Line.literal_of_read above cs literal carried).1
    rw [← pending_lowerEnd] at later
    rw [List.map_cons, Tokenized.readLines, part_eq, read_eq, lowerReading, later,
      Tokenized.readLines, lowerPart_append]

end FortranStyle.LetterCase
