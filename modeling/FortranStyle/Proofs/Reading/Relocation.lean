import FortranStyle.Proofs.Reading.Lines

/-!
# Moving the places of a source

What a line reads as does not depend on where the line stands: a reader uses
its line and column only to say where a token or an error is.  A relocation says
where every place goes.  When it moves the rest of a line rigidly, reading the
rest at its new place gives the old tokens, the old error and the old open
statement, each at its new place.

The same holds for whole lines and for the lines up to the end of a source, so
one theory serves lines put in front of a source, lines inserted into it and
lines cut in two.
-/

namespace FortranStyle

/-- A change of the places of a source. -/
structure Relocation where
  /-- The line and the column to which a line and a column go. -/
  place : Nat → Nat → Nat × Nat
  /-- The line number that a message quotes in place of another. -/
  quoted : Nat → Nat

namespace Relocation

/-- Move a token with both of its ends. -/
def token (relocation : Relocation) (token : Token) : Token :=
  { token with
    line := (relocation.place token.line token.column).1
    column := (relocation.place token.line token.column).2
    endLine := (relocation.place token.endLine token.endColumn).1
    endColumn := (relocation.place token.endLine token.endColumn).2 }

/-- Change the line number that a cause quotes. -/
def cause (relocation : Relocation) : LexCause → LexCause
  | .unterminated quote openedOn => .unterminated quote (relocation.quoted openedOn)
  | other => other

/-- Move an error. -/
def error (relocation : Relocation) (error : LexError) : LexError :=
  { cause := relocation.cause error.cause
    line := (relocation.place error.line error.column).1
    column := (relocation.place error.line error.column).2 }

/-- Move the opening quote of a literal. -/
def literal (relocation : Relocation) (literal : OpenLiteral) : OpenLiteral :=
  { literal with
    line := (relocation.place literal.line literal.column).1
    column := (relocation.place literal.line literal.column).2 }

/-- Move the marker at which a line was suspended. -/
def suspended (relocation : Relocation) (rest : Suspended) : Suspended :=
  { rest with
    line := (relocation.place rest.line rest.column).1
    column := (relocation.place rest.line rest.column).2
    literal := rest.literal.map relocation.literal }

/-- Move the end of a line. -/
def ending (relocation : Relocation) : LineEnd → LineEnd
  | .complete => .complete
  | .suspended rest => .suspended (relocation.suspended rest)
  | .failed error => .failed (relocation.error error)

/-- Move the tokens and the end of a line. -/
def reading (relocation : Relocation) (reading : Line.Reading) : Line.Reading :=
  (reading.1.map relocation.token, relocation.ending reading.2)

/-- Move the tokens and the errors of some lines. -/
def part (relocation : Relocation) (part : Tokenized.Part) : Tokenized.Part :=
  { tokens := part.tokens.map relocation.token
    continuedLines := part.continuedLines.map relocation.quoted
    errors := part.errors.map relocation.error }

/-- The rest of a line from a place on goes to another place as it is. -/
def Carries (relocation : Relocation) (line column line' column' : Nat) : Prop :=
  ∀ offset, relocation.place line (column + offset) = (line', column' + offset)

variable {relocation : Relocation} {line column line' column' : Nat}

theorem Carries.place_eq (carries : relocation.Carries line column line' column') :
    relocation.place line column = (line', column') :=
  carries 0

theorem Carries.add (carries : relocation.Carries line column line' column') (count : Nat) :
    relocation.Carries line (column + count) line' (column' + count) := by
  intro offset
  rw [Nat.add_assoc, Nat.add_assoc]
  exact carries (count + offset)

theorem Carries.place_add (carries : relocation.Carries line column line' column')
    (offset : Nat) : relocation.place line (column + offset) = (line', column' + offset) :=
  carries offset

/-! ## Tokens of a moved line -/

@[simp]
theorem token_isCode (token : Token) : (relocation.token token).isCode = token.isCode :=
  rfl

@[simp]
theorem token_kind (token : Token) : (relocation.token token).kind = token.kind :=
  rfl

@[simp]
theorem token_text (token : Token) : (relocation.token token).text = token.text :=
  rfl

/-- A token that lies on a moved line and is not empty moves with it. -/
theorem Carries.token_onLine (carries : relocation.Carries line column line' column')
    (kind : TokenKind) {text : List Char} (nonempty : text ≠ []) :
    relocation.token (Token.onLine kind line column text) =
      Token.onLine kind line' column' text := by
  obtain ⟨c, rest, rfl⟩ := List.exists_cons_of_ne_nil nonempty
  have last := carries.place_add rest.length
  simp only [token, Token.onLine, carries.place_eq, List.length_cons, ← Nat.add_assoc,
    Nat.add_sub_cancel, last]

theorem Carries.token_statementEnd (carries : relocation.Carries line column line' column')
    (mark : Char) :
    relocation.token (Token.statementEnd mark line column) =
      Token.statementEnd mark line' column' :=
  carries.token_onLine .endOfLine (List.cons_ne_nil mark [])

theorem Carries.map_close (carries : relocation.Carries line column line' column')
    (progress : Progress) (mark : Char) :
    (progress.close mark line column).map relocation.token =
      progress.close mark line' column' := by
  unfold Progress.close
  split
  · simp [carries.token_statementEnd]
  · rfl

@[simp]
theorem reading_emit (token : Token) (reading : Line.Reading) :
    relocation.reading (Line.emit token reading) =
      Line.emit (relocation.token token) (relocation.reading reading) :=
  rfl

/-! ## The rest of a line -/

/-- A cause that quotes no line is the same everywhere. -/
theorem Carries.reading_fail (carries : relocation.Carries line column line' column')
    (progress : Progress) (cause : LexCause) (count : Nat) :
    relocation.reading (Line.fail progress cause line column (column + count)) =
      Line.fail progress (relocation.cause cause) line' column' (column' + count) := by
  simp only [Line.fail, reading, ending, error, (carries.add count).map_close, carries.place_eq]

theorem Carries.reading_afterMarker (carries : relocation.Carries line column line' column')
    (progress : Progress) (cs : List Char) :
    relocation.reading (Line.afterMarker line column progress cs) =
      Line.afterMarker line' column' progress cs := by
  have marker := carries.token_onLine .continuation (List.cons_ne_nil '&' [])
  have suspended : relocation.ending (.suspended ⟨line, column, progress, none⟩) =
      .suspended ⟨line', column', progress, none⟩ := by
    simp [ending, Relocation.suspended, carries.place_eq]
  unfold Line.afterMarker
  split
  · generalize gap_eq : Lexeme.leading Text.isGap cs = gap
    have rest := carries.add (1 + gap)
    rw [← Nat.add_assoc, ← Nat.add_assoc] at rest
    cases dropped : cs.drop gap with
    | nil => simp only [dropped, reading, List.map_cons, List.map_nil, marker, suspended]
    | cons c after =>
      have length_eq : cs.length = gap + (after.length + 1) := by
        have := congrArg List.length dropped
        simp only [List.length_drop, List.length_cons] at this
        omega
      by_cases comment : c = '!'
      · subst comment
        simp only [dropped, if_true, reading, List.map_cons, List.map_nil, marker, suspended,
          rest.token_onLine .comment (List.cons_ne_nil '!' after)]
      · have failed := rest.reading_fail progress (.unexpected c) (after.length + 1)
        rw [Nat.add_assoc _ gap, Nat.add_assoc _ gap, ← length_eq] at failed
        simp only [dropped, comment, if_false, reading_emit, marker, failed]
        rfl
  · rw [Nat.add_assoc, Nat.add_assoc]
    exact carries.reading_fail progress .codeAfterMarker (1 + cs.length)

/-- The line that a message about an open literal quotes is the line to which
the literal goes. -/
def FitsLiteral (relocation : Relocation) (literal : OpenLiteral) : Prop :=
  relocation.quoted literal.line = (relocation.literal literal).line

/-- What moves along with a suspended line: the place behind its marker, and the
line that a message about its literal quotes. -/
structure Fits (relocation : Relocation) (rest : Suspended) : Prop where
  marker : relocation.Carries rest.line rest.column (relocation.suspended rest).line
    (relocation.suspended rest).column
  literal : ∀ literal ∈ rest.literal, relocation.FitsLiteral literal

theorem Carries.reading_carry (carries : relocation.Carries line column line' column')
    (progress : Progress) {literal : OpenLiteral} (fits : relocation.FitsLiteral literal)
    (cs : List Char) :
    relocation.reading (Line.carry line column progress literal cs) =
      Line.carry line' column' progress (relocation.literal literal) cs := by
  unfold Line.carry
  cases Line.carriedPart? cs with
  | some part =>
    have marker := carries.add part.length
    simp only [reading, List.map_cons, List.map_nil,
      marker.token_onLine .continuation (List.cons_ne_nil '&' []), ending, suspended,
      marker.place_eq, Option.map_some]
    rfl
  | none =>
    have failed := carries.reading_fail progress
      (.unterminated literal.quote literal.line) cs.length
    rw [failed, cause, fits]
    rfl

/-- The rest of a line reads the same wherever the line stands. -/
theorem Carries.reading_readRest (carries : relocation.Carries line column line' column')
    (quoted : relocation.quoted line = line') (progress : Progress) (cs : List Char) :
    relocation.reading (Line.readRest line column progress cs) =
      Line.readRest line' column' progress cs := by
  fun_induction Line.readRest line column progress cs generalizing column' with
  | case1 column progress =>
    rw [Line.readRest]
    simp [reading, carries.map_close, ending]
  | case2 column progress c rest gap ih =>
    rw [Line.readRest, if_pos gap]
    exact ih (carries.add 1)
  | case3 column progress rest noGap =>
    have close := (carries.add (1 + rest.length)).map_close progress '\n'
    rw [← Nat.add_assoc, ← Nat.add_assoc] at close
    rw [Line.readRest, if_neg noGap, if_pos rfl, reading_emit,
      carries.token_onLine .comment (List.cons_ne_nil '!' rest), reading, close]
    rfl
  | case4 column progress rest noGap noComment =>
    rw [Line.readRest, if_neg noGap, if_neg noComment, if_pos rfl]
    exact carries.reading_afterMarker progress rest
  | case5 column progress rest tokens ending read noGap noComment noMarker ih =>
    rw [Line.readRest, if_neg noGap, if_neg noComment, if_neg noMarker, if_pos rfl,
      ← ih (carries.add 1), read, ← carries.map_close]
    simp [reading]
  | case6 column progress c rest noGap noComment noMarker noEnd lexeme read ih =>
    have after := carries.add (1 + lexeme.tail)
    rw [← Nat.add_assoc, ← Nat.add_assoc] at after
    rw [Line.readRest, if_neg noGap, if_neg noComment, if_neg noMarker, if_neg noEnd, read,
      reading_emit, ih after, carries.token_onLine lexeme.kind (List.cons_ne_nil c _)]
  | case7 column progress c rest noGap noComment noMarker noEnd read quote =>
    have fits : relocation.FitsLiteral ⟨c, line, column, []⟩ := by
      simp [FitsLiteral, literal, carries.place_eq, quoted]
    rw [Line.readRest, if_neg noGap, if_neg noComment, if_neg noMarker, if_neg noEnd, read]
    simp only [quote, if_true]
    rw [carries.reading_carry progress fits, literal, carries.place_eq]
  | case8 column progress c rest noGap noComment noMarker noEnd read noQuote =>
    have failed := carries.reading_fail progress (.unexpected c) (1 + rest.length)
    rw [← Nat.add_assoc, ← Nat.add_assoc] at failed
    rw [Line.readRest, if_neg noGap, if_neg noComment, if_neg noMarker, if_neg noEnd, read]
    simp only [noQuote]
    exact failed

/-! ## Whole lines -/

theorem Carries.reading_resumeLiteral (carries : relocation.Carries line column line' column')
    (quoted : relocation.quoted line = line') (progress : Progress) {literal : OpenLiteral}
    (fits : relocation.FitsLiteral literal) (cs : List Char) :
    relocation.reading (Line.resumeLiteral line column progress literal cs) =
      Line.resumeLiteral line' column' progress (relocation.literal literal) cs := by
  have quote_eq : (relocation.literal literal).quote = literal.quote := rfl
  unfold Line.resumeLiteral
  rw [quote_eq]
  cases Lexeme.closingQuote? literal.quote cs with
  | none => exact carries.reading_carry progress fits cs
  | some body =>
    have after := (carries.add (body + 1)).reading_readRest quoted
      ⟨true, progress.constructors⟩ (cs.drop (body + 1))
    rw [← Nat.add_assoc, ← Nat.add_assoc] at after
    simp only [reading_emit, after, token, carries.place_add body]
    rfl

theorem Carries.reading_resume (carries : relocation.Carries line column line' column')
    (quoted : relocation.quoted line = line') {rest : Suspended} (fits : relocation.Fits rest)
    (cs : List Char) :
    relocation.reading (Line.resume line column rest cs) =
      Line.resume line' column' (relocation.suspended rest) cs := by
  obtain ⟨markerLine, markerColumn, progress, literal⟩ := rest
  cases literal with
  | none => exact carries.reading_readRest quoted progress cs
  | some literal =>
    exact carries.reading_resumeLiteral quoted progress (fits.literal literal rfl) cs

/-- A line reads the same wherever what is behind its leading gap stands, as long
as what it continues moves along. -/
theorem Carries.reading_read_of_body {cs cs' : List Char}
    (body_eq : cs'.dropWhile Text.isGap = cs.dropWhile Text.isGap)
    (carries : relocation.Carries line (Line.firstColumn cs) line' (Line.firstColumn cs'))
    (quoted : relocation.quoted line = line') {pending : Option Suspended}
    (fits : ∀ rest ∈ pending, relocation.Fits rest) :
    relocation.reading (Line.read line pending cs) =
      Line.read line' (pending.map relocation.suspended) cs' := by
  have unchanged : relocation.ending (.unchanged pending) =
      .unchanged (pending.map relocation.suspended) := by
    cases pending <;> rfl
  have trim_eq : Text.trim cs' = Text.trim cs := by
    rw [← Line.trim_dropWhile_isGap, body_eq, Line.trim_dropWhile_isGap]
  have silent_eq : Line.isSilent cs' = Line.isSilent cs := by
    rw [Line.isSilent, trim_eq, Line.isSilent]
  cases silent : Line.isSilent cs with
  | true =>
    rw [Line.read_of_isSilent silent, Line.read_of_isSilent (silent_eq.trans silent), trim_eq,
      body_eq]
    by_cases blank : Text.trim cs = []
    · simp only [blank, if_true, reading, List.map_nil, unchanged]
    · simp only [blank, if_false, reading, List.map_cons, List.map_nil, unchanged,
        carries.token_onLine .comment (Line.dropWhile_isGap_ne_nil blank)]
  | false =>
    have silent' := silent_eq.trans silent
    have filled := (Line.isSilent_eq_false_iff.mp silent).1
    cases pending with
    | none =>
      rw [Option.map_none, Line.read_none silent, Line.read_none silent', trim_eq, body_eq]
      split
      · simp only [reading, List.map_cons, List.map_nil, ending,
          carries.token_onLine .directive (Line.dropWhile_isGap_ne_nil filled)]
      · exact carries.reading_readRest quoted .fresh _
    | some rest =>
      have restFits := fits rest rfl
      rw [Option.map_some]
      by_cases marker : (cs.dropWhile Text.isGap).head? = some '&'
      · obtain ⟨after, after_eq⟩ := List.head?_eq_some_iff.mp marker
        rw [Line.read_some_marker rest silent after_eq,
          Line.read_some_marker _ silent' (body_eq.trans after_eq),
          reading_emit, carries.token_onLine .continuation (List.cons_ne_nil '&' []),
          (carries.add 1).reading_resume quoted restFits]
      · have marker' : (cs'.dropWhile Text.isGap).head? ≠ some '&' := by rwa [body_eq]
        rw [Line.read_some rest silent marker, Line.read_some _ silent' marker', body_eq]
        exact carries.reading_resume quoted restFits _

/-- The place behind the leading gap of a line moves with the line. -/
theorem Carries.body (carries : relocation.Carries line 1 line' 1) (cs : List Char) :
    relocation.Carries line (Line.firstColumn cs) line' (Line.firstColumn cs) := by
  have shifted := carries.add (Lexeme.leading Text.isGap cs)
  rwa [Nat.add_comm 1] at shifted

/-- A line reads the same wherever it stands, as long as what it continues moves
along. -/
theorem Carries.reading_read (carries : relocation.Carries line 1 line' 1)
    (quoted : relocation.quoted line = line') {pending : Option Suspended}
    (fits : ∀ rest ∈ pending, relocation.Fits rest) (cs : List Char) :
    relocation.reading (Line.read line pending cs) =
      Line.read line' (pending.map relocation.suspended) cs :=
  (carries.body cs).reading_read_of_body rfl quoted fits

/-! ## What a moved line leaves open -/

theorem Carries.fits_afterMarker (carries : relocation.Carries line column line' column')
    (progress : Progress) (cs : List Char) :
    ∀ rest ∈ (Line.afterMarker line column progress cs).2.pending, relocation.Fits rest := by
  have fits : relocation.Fits ⟨line, column, progress, none⟩ :=
    { marker := by simpa [suspended, carries.place_eq] using carries
      literal := by simp }
  intro rest member
  rcases Line.afterMarker_cases line column progress cs with
    read | ⟨place, rest, read⟩ | ⟨c, place, read⟩ | read
  all_goals rw [read] at member
  · exact Option.mem_some_iff.mp member ▸ fits
  · exact Option.mem_some_iff.mp member ▸ fits
  · simp [Line.emit, Line.fail, LineEnd.pending] at member
  · simp [Line.fail, LineEnd.pending] at member

theorem Carries.fits_carry (carries : relocation.Carries line column line' column')
    (progress : Progress) {literal : OpenLiteral} (fits : relocation.FitsLiteral literal)
    (cs : List Char) :
    ∀ rest ∈ (Line.carry line column progress literal cs).2.pending, relocation.Fits rest := by
  intro rest member
  unfold Line.carry at member
  cases carried : Line.carriedPart? cs with
  | none => simp [carried, Line.fail, LineEnd.pending] at member
  | some part =>
    have marker := carries.add part.length
    simp only [carried, LineEnd.pending, Option.mem_some_iff] at member
    subst member
    constructor
    · simpa [suspended, marker.place_eq] using marker
    · intro continued same
      rw [Option.mem_some_iff] at same
      subst same
      exact fits

/-- A line that moves leaves open only what moves along. -/
theorem Carries.fits_readRest (carries : relocation.Carries line column line' column')
    (quoted : relocation.quoted line = line') (progress : Progress) (cs : List Char) :
    ∀ rest ∈ (Line.readRest line column progress cs).2.pending, relocation.Fits rest := by
  fun_induction Line.readRest line column progress cs generalizing column' with
  | case1 => simp [LineEnd.pending]
  | case2 column progress c rest gap ih => exact ih (carries.add 1)
  | case3 => simp [Line.emit, LineEnd.pending]
  | case4 column progress rest => exact carries.fits_afterMarker progress rest
  | case5 column progress rest tokens ending read noGap noComment noMarker ih =>
    have inherited := ih (carries.add 1)
    rwa [read] at inherited
  | case6 column progress c rest noGap noComment noMarker noEnd lexeme read ih =>
    have after := carries.add (1 + lexeme.tail)
    rw [← Nat.add_assoc, ← Nat.add_assoc] at after
    exact ih after
  | case7 column progress c rest =>
    have fits : relocation.FitsLiteral ⟨c, line, column, []⟩ := by
      simp [FitsLiteral, literal, carries.place_eq, quoted]
    exact carries.fits_carry progress fits (c :: rest)
  | case8 => simp [Line.fail, LineEnd.pending]

theorem Carries.fits_resume (carries : relocation.Carries line column line' column')
    (quoted : relocation.quoted line = line') {rest : Suspended} (fits : relocation.Fits rest)
    (cs : List Char) :
    ∀ next ∈ (Line.resume line column rest cs).2.pending, relocation.Fits next := by
  obtain ⟨markerLine, markerColumn, progress, literal⟩ := rest
  cases literal with
  | none => exact carries.fits_readRest quoted progress cs
  | some literal =>
    have literalFits := fits.literal literal rfl
    simp only [Line.resume, Line.resumeLiteral]
    cases Lexeme.closingQuote? literal.quote cs with
    | none => exact carries.fits_carry progress literalFits cs
    | some body =>
      have after := (carries.add (body + 1)).fits_readRest quoted
        ⟨true, progress.constructors⟩ (cs.drop (body + 1))
      rwa [← Nat.add_assoc] at after

theorem Carries.fits_read (carries : relocation.Carries line 1 line' 1)
    (quoted : relocation.quoted line = line') {pending : Option Suspended}
    (fits : ∀ rest ∈ pending, relocation.Fits rest) (cs : List Char) :
    ∀ next ∈ (Line.read line pending cs).2.pending, relocation.Fits next := by
  have body := carries.body cs
  cases silent : Line.isSilent cs with
  | true =>
    rw [Line.read_of_isSilent silent]
    cases pending <;> exact fits
  | false =>
    cases pending with
    | none =>
      rw [Line.read_none silent]
      split
      · simp [LineEnd.pending]
      · exact body.fits_readRest quoted .fresh _
    | some rest =>
      have restFits := fits rest rfl
      by_cases marker : (cs.dropWhile Text.isGap).head? = some '&'
      · obtain ⟨after, body_eq⟩ := List.head?_eq_some_iff.mp marker
        rw [Line.read_some_marker rest silent body_eq]
        exact (body.add 1).fits_resume quoted restFits after
      · rw [Line.read_some rest silent marker]
        exact body.fits_resume quoted restFits _

/-! ## Successive lines -/

/-- Some successive lines go, one by one and as they are, to the lines from
another line on. -/
structure CarriesLines (relocation : Relocation) (line line' count : Nat) : Prop where
  carries : ∀ index < count, relocation.Carries (line + index) 1 (line' + index) 1
  quoted : ∀ index < count, relocation.quoted (line + index) = line' + index

theorem CarriesLines.first {count : Nat} (moved : relocation.CarriesLines line line' (count + 1)) :
    relocation.Carries line 1 line' 1 ∧ relocation.quoted line = line' :=
  ⟨moved.carries 0 (Nat.succ_pos count), moved.quoted 0 (Nat.succ_pos count)⟩

theorem CarriesLines.next {count : Nat} (moved : relocation.CarriesLines line line' (count + 1)) :
    relocation.CarriesLines (line + 1) (line' + 1) count := by
  constructor
  · intro index index_lt
    rw [Nat.add_assoc, Nat.add_assoc]
    exact moved.carries (1 + index) (by omega)
  · intro index index_lt
    rw [Nat.add_assoc, Nat.add_assoc]
    exact moved.quoted (1 + index) (by omega)

theorem part_append (first second : Tokenized.Part) :
    relocation.part (first ++ second) = relocation.part first ++ relocation.part second := by
  change relocation.part (first.append second) =
    (relocation.part first).append (relocation.part second)
  simp [part, Tokenized.Part.append]

theorem pending_ending (ending : LineEnd) :
    (relocation.ending ending).pending = ending.pending.map relocation.suspended := by
  cases ending <;> rfl

theorem errors_ending (ending : LineEnd) :
    (relocation.ending ending).errors = ending.errors.map relocation.error := by
  cases ending <;> rfl

theorem Carries.part_linePart (carries : relocation.Carries line 1 line' 1)
    (quoted : relocation.quoted line = line') {pending : Option Suspended}
    (fits : ∀ rest ∈ pending, relocation.Fits rest) (cs : List Char) :
    relocation.part (Tokenized.linePart line pending cs) =
      Tokenized.linePart line' (pending.map relocation.suspended) cs := by
  simp only [Tokenized.linePart, part, ← carries.reading_read quoted fits cs, reading,
    errors_ending, Option.isSome_map, apply_ite (List.map relocation.quoted), List.map_cons,
    List.map_nil, quoted]

theorem Carries.pending_read (carries : relocation.Carries line 1 line' 1)
    (quoted : relocation.quoted line = line') {pending : Option Suspended}
    (fits : ∀ rest ∈ pending, relocation.Fits rest) (cs : List Char) :
    (Line.read line' (pending.map relocation.suspended) cs).2.pending =
      (Line.read line pending cs).2.pending.map relocation.suspended := by
  rw [← carries.reading_read quoted fits cs, ← pending_ending]
  rfl

/-- Lines that move leave pending what they left pending before, moved along. -/
theorem CarriesLines.pendingBehind {lines : List (List Char)}
    (moved : relocation.CarriesLines line line' lines.length) {pending : Option Suspended}
    (fits : ∀ rest ∈ pending, relocation.Fits rest) :
    Tokenized.pendingBehind line' (pending.map relocation.suspended) lines =
        (Tokenized.pendingBehind line pending lines).map relocation.suspended ∧
      ∀ rest ∈ Tokenized.pendingBehind line pending lines, relocation.Fits rest := by
  induction lines generalizing line line' pending with
  | nil => exact ⟨rfl, fits⟩
  | cons cs rest ih =>
    obtain ⟨carries, quoted⟩ := moved.first
    have later := ih moved.next (carries.fits_read quoted fits cs)
    rwa [← carries.pending_read quoted fits cs] at later

/-- Successive lines read the same wherever they stand. -/
theorem CarriesLines.part_linesPart {lines : List (List Char)}
    (moved : relocation.CarriesLines line line' lines.length) {pending : Option Suspended}
    (fits : ∀ rest ∈ pending, relocation.Fits rest) :
    relocation.part (Tokenized.linesPart line pending lines) =
      Tokenized.linesPart line' (pending.map relocation.suspended) lines := by
  induction lines generalizing line line' pending with
  | nil => rfl
  | cons cs rest ih =>
    obtain ⟨carries, quoted⟩ := moved.first
    have later := ih moved.next (carries.fits_read quoted fits cs)
    rw [← carries.pending_read quoted fits cs] at later
    rw [Tokenized.linesPart, Tokenized.linesPart, part_append,
      carries.part_linePart quoted fits cs, later]

theorem part_danglingPart {pending : Option Suspended}
    (fits : ∀ rest ∈ pending, relocation.Fits rest) :
    relocation.part (Tokenized.danglingPart pending) =
      Tokenized.danglingPart (pending.map relocation.suspended) := by
  cases pending with
  | none => rfl
  | some rest =>
    have marker := (fits rest rfl).marker
    simp only [Tokenized.danglingPart, part, Option.map_some, (marker.add 1).map_close,
      List.map_cons, List.map_nil, error, cause]
    rfl

/-- The lines up to the end of a source read the same wherever they stand. -/
theorem CarriesLines.part_readLines {lines : List (List Char)}
    (moved : relocation.CarriesLines line line' lines.length) {pending : Option Suspended}
    (fits : ∀ rest ∈ pending, relocation.Fits rest) :
    relocation.part (Tokenized.readLines line pending lines) =
      Tokenized.readLines line' (pending.map relocation.suspended) lines := by
  obtain ⟨pending_eq, behindFits⟩ := moved.pendingBehind fits
  rw [Tokenized.readLines_eq, Tokenized.readLines_eq, part_append, moved.part_linesPart fits,
    part_danglingPart behindFits, pending_eq]

end Relocation

end FortranStyle
