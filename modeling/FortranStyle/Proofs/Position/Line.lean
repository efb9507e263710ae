import FortranStyle.Proofs.Position.Lexeme
import FortranStyle.Proofs.Reading.Line

/-!
# Lines by position

A line is read by one loop over its positions, which goes on behind a
continuation marker like anywhere else and remembers the column of the marker.
Behind a marker it can only meet blank characters and a comment.
-/

namespace FortranStyle.Position

variable {text : List Char} {pos : Nat}

/-- The end of a line: it ends the statement, unless a marker stands on the
line. -/
def finish (line : Nat) (text : List Char) (progress : Progress) :
    Option Nat → Line.Reading
  | none => (progress.close '\n' line (text.length + 1), .complete)
  | some marker => ([], .suspended ⟨line, marker, progress, none⟩)

/-- Carry a literal over that is not closed from a position on. -/
def carryFrom (line : Nat) (text : List Char) (progress : Progress) (literal : OpenLiteral)
    (pos : Nat) : Line.Reading :=
  let trimmed := Text.trimEnd text
  if trimmed.getLast? = some '&' ∧ pos ≤ trimmed.length - 1 then
    let marker := trimmed.length - 1
    ([Token.onLine .continuation line (marker + 1) ['&']],
      .suspended ⟨line, marker + 1, progress,
        some { literal with text := literal.text ++ text.extract pos marker }⟩)
  else
    Line.fail progress (.unterminated literal.quote literal.line) line (pos + 1) (text.length + 1)

/-- Read a line from a position on. -/
def scan (line : Nat) (text : List Char) (progress : Progress) (marker : Option Nat)
    (pos : Nat) : Attempt Line.Reading :=
  if _ : pos < text.length then do
    let c ← text[pos]?
    if Text.isGap c then
      scan line text progress marker (pos + 1)
    else if c = '!' then
      pure (Line.emit (Token.onLine .comment line (pos + 1) (text.drop pos))
        (finish line text progress marker))
    else if Lexeme.isQuote c then
      match ← closingQuote text c (pos + 1) with
      | some stop =>
          let ⟨_⟩ ← onward pos (stop + 1)
          let reading ← scan line text ⟨true, progress.constructors⟩ marker (stop + 1)
          let literal := text.extract pos (stop + 1)
          pure (Line.emit (Token.onLine .string line (pos + 1) literal) reading)
      | none => pure (carryFrom line text progress ⟨c, line, pos + 1, []⟩ pos)
    else if c = '&' then
      let rest := Text.trim (text.drop (pos + 1))
      if rest ≠ [] ∧ rest.head? ≠ some '!' then
        pure (Line.fail progress .codeAfterMarker line (pos + 1) (text.length + 1))
      else
        let reading ← scan line text progress (some (pos + 1)) (pos + 1)
        pure (Line.emit (Token.onLine .continuation line (pos + 1) ['&']) reading)
    else if c = ';' then
      let (tokens, ending) ← scan line text .fresh marker (pos + 1)
      pure (progress.close ';' line (pos + 1) ++ tokens, ending)
    else
      match ← lexemeAt? progress.constructors text pos with
      | some (kind, stop, depth) =>
          let ⟨_⟩ ← onward pos stop
          let reading ← scan line text ⟨true, depth⟩ marker stop
          pure (Line.emit (Token.onLine kind line (pos + 1) (text.extract pos stop)) reading)
      | none => pure (Line.fail progress (.unexpected c) line (pos + 1) (text.length + 1))
  else
    pure (finish line text progress marker)
termination_by text.length - pos

/-- Read a line that goes on with a character literal. -/
def resumeLiteral (line : Nat) (text : List Char) (progress : Progress) (literal : OpenLiteral)
    (pos : Nat) : Attempt Line.Reading := do
  match ← closingQuote text literal.quote pos with
  | some stop =>
      let reading ← scan line text ⟨true, progress.constructors⟩ none (stop + 1)
      pure (Line.emit
        { kind := .string, text := String.ofList (literal.text ++ text.extract pos (stop + 1)),
          line := literal.line, column := literal.column, endLine := line,
          endColumn := stop + 1 } reading)
  | none => pure (carryFrom line text progress literal pos)

/-- Read a line that continues a statement. -/
def resume (line : Nat) (text : List Char) (pending : Suspended) (pos : Nat) :
    Attempt Line.Reading :=
  match pending.literal with
  | some literal => resumeLiteral line text pending.progress literal pos
  | none => scan line text pending.progress none pos

/-- Read a line, given what the lines before it left open. -/
def readLine (line : Nat) (pending : Option Suspended) (text : List Char) :
    Attempt Line.Reading := do
  let stripped := Text.trim text
  let first := text.length - (text.dropWhile Text.isGap).length
  if stripped = [] then
    pure ([], .unchanged pending)
  else if stripped.head? = some '!' then
    pure ([Token.onLine .comment line (first + 1) (text.drop first)], .unchanged pending)
  else
    match pending with
    | some rest =>
        let c ← text[first]?
        if c = '&' then
          let reading ← resume line text rest (first + 1)
          pure (Line.emit (Token.onLine .continuation line (first + 1) ['&']) reading)
        else
          resume line text rest first
    | none =>
        if stripped.head? = some '#' then
          pure ([Token.onLine .directive line (first + 1) (text.drop first)], .complete)
        else
          scan line text .fresh none first

/-! ## Literals that are carried over -/

/-- Taking characters off the end and off the front of a text can be exchanged. -/
theorem dropEndWhile_drop (p : Char → Bool) (cs : List Char) (count : Nat) :
    Text.dropEndWhile p (cs.drop count) = (Text.dropEndWhile p cs).drop count := by
  induction count generalizing cs with
  | zero => rfl
  | succ count ih =>
    cases cs with
    | nil => rfl
    | cons c rest =>
      have tail : (Text.dropEndWhile p (c :: rest)).tail = Text.dropEndWhile p rest := by
        simp only [Text.dropEndWhile, List.reverse_cons, List.dropWhile_append]
        split
        case isTrue nothing =>
          rw [List.isEmpty_iff.mp nothing]
          by_cases dropped : p c <;> simp [dropped]
        case isFalse => simp
      rw [List.drop_succ_cons, ih, ← tail, List.drop_tail]

theorem carryFrom_eq (line : Nat) (progress : Progress) (literal : OpenLiteral)
    (inside : pos ≤ text.length) :
    carryFrom line text progress literal pos =
      Line.carry line (pos + 1) progress literal (text.drop pos) := by
  have shortened : Text.trimEnd text <+: text := Text.dropEndWhile_prefix Text.isBlank text
  have trimmed : Text.trimEnd (text.drop pos) = (Text.trimEnd text).drop pos :=
    dropEndWhile_drop Text.isBlank text pos
  rw [carryFrom, Line.carry, Line.carriedPart?, trimmed, List.getLast?_drop]
  generalize Text.trimEnd text = front at shortened
  by_cases short : front.length ≤ pos
  · have last : ¬(front.getLast? = some '&' ∧ pos ≤ front.length - 1) := by
      rintro ⟨marker, within⟩
      obtain rfl : front = [] := List.eq_nil_of_length_eq_zero (by omega)
      cases marker
    simp only [last, short, if_true, if_false, reduceCtorEq, List.length_drop]
    congr 1
    omega
  · by_cases marker : front.getLast? = some '&'
    · obtain ⟨more, rfl⟩ := shortened
      have part : (front ++ more).extract pos (front.length - 1) = (front.drop pos).dropLast := by
        rw [List.extract_eq_take_drop, List.dropLast_eq_take, List.length_drop,
          List.drop_append_of_le_length (by omega), List.take_append_of_le_length (by simp; omega)]
        congr 1
        omega
      have within : pos ≤ front.length - 1 := by omega
      have place : pos + 1 + ((front.drop pos).dropLast).length = front.length - 1 + 1 := by
        rw [List.length_dropLast, List.length_drop]
        omega
      simp only [marker, within, short, and_self, if_true, if_false, part, place]
    · simp only [marker, short, false_and, if_false, List.length_drop]
      congr 1
      omega

/-! ## The loop -/

/-- Spaces and tabs are passed over one by one. -/
theorem scan_gaps (line : Nat) (progress : Progress) (marker : Option Nat) (pos : Nat) :
    scan line text progress marker pos =
      scan line text progress marker (pos + Lexeme.leading Text.isGap (text.drop pos)) := by
  induction pos using forward text with
  | outside pos outside => rw [drop_eq_nil outside]; rfl
  | inside pos c inside here cut ih =>
    by_cases gap : Text.isGap c
    · have passed :
          scan line text progress marker pos = scan line text progress marker (pos + 1) := by
        rw [scan, dif_pos inside, here]
        simp [gap]
      rw [passed, ih (pos + 1) (Nat.lt_succ_self pos), cut, Lexeme.leading_cons_of_pos gap]
      congr 1
      omega
    · rw [cut, Lexeme.leading_cons_of_neg (Bool.eq_false_iff.mpr gap), Nat.add_zero]

/-- A blank character starts no lexeme. -/
theorem read?_of_isBlank {c : Char} (blank : Text.isBlank c = true) (depth : Nat)
    (rest : List Char) : ¬ Lexeme.isQuote c = true ∧ Lexeme.read? depth (c :: rest) = none := by
  have apart {d : Char} (filled : Text.isBlank d = false) : c ≠ d := by
    rintro rfl
    exact Bool.eq_false_iff.mp filled blank
  have code : c.toNat < 0x21 ∨ 0x7e < c.toNat := by
    simp only [Text.isBlank, Bool.or_eq_true, Bool.and_eq_true, decide_eq_true_eq,
      beq_iff_eq] at blank
    omega
  have noQuote : ¬ Lexeme.isQuote c = true := by
    have single := apart (d := '\'') (by decide)
    have double := apart (d := '"') (by decide)
    simp [Lexeme.isQuote, single, double]
  have noAlpha : ¬ c.isAlpha = true := by
    rw [Lexeme.isAlpha_iff_toNat]
    omega
  have noPoint : c ≠ '.' := apart (by decide)
  have noNumber : ¬ Lexeme.startsNumber (c :: rest) = true := by
    intro digit
    rw [Lexeme.startsNumber_of_ne noPoint] at digit
    have range : 0x30 ≤ c.toNat ∧ c.toNat ≤ 0x39 := Char.isDigit_iff_toNat.mp digit
    omega
  have filled : Lexeme.operatorChars.all (!Text.isBlank ·) = true := by decide
  have noOperator : c ∉ Lexeme.operatorChars := fun listed => by
    simpa [blank] using List.all_eq_true.mp filled c listed
  refine ⟨noQuote, ?_⟩
  rw [Lexeme.read?_operator noQuote noAlpha noNumber (Lexeme.dottedLength?_of_ne noPoint rest),
    Lexeme.operator?_of_notMem noOperator, Option.map_none]

/-- Behind a marker the loop meets blank characters and a comment. -/
theorem scan_behind (line : Nat) (progress : Progress) (inside : pos ≤ text.length)
    (allowed : (Text.trim (text.drop pos)).head?.all (· == '!') = true) :
    (scan line text progress (some pos) pos).map
        (Line.emit (Token.onLine .continuation line pos ['&'])) =
      some (Line.afterMarker line pos progress (text.drop pos)) := by
  rw [scan_gaps, Line.afterMarker, if_pos (Line.head?_trim _ ▸ allowed), List.drop_drop]
  rw [← Line.trim_dropWhile_isGap, ← Line.drop_leading, List.drop_drop, Line.head?_trim] at allowed
  generalize within : pos + Lexeme.leading Text.isGap (text.drop pos) = stop at allowed ⊢
  cases cut : text.drop stop with
  | nil =>
    have outside : ¬ stop < text.length := Nat.not_lt_of_le (List.drop_eq_nil_iff.mp cut)
    rw [scan, dif_neg outside]
    rfl
  | cons c rest =>
    obtain ⟨here, rfl⟩ := drop_eq_cons_iff.mp cut
    obtain ⟨bound, -⟩ := List.getElem?_eq_some_iff.mp here
    have noGap : Text.isGap c = false := by
      have first := List.head?_dropWhile_not Text.isGap (text.drop pos)
      rw [← Line.drop_leading, List.drop_drop, within, cut] at first
      exact first
    have place : pos + 1 + Lexeme.leading Text.isGap (text.drop pos) = stop + 1 := by omega
    have total : pos + 1 + (text.length - pos) = text.length + 1 := by omega
    rw [scan, dif_pos bound, here, cut]
    by_cases comment : c = '!'
    · subst comment
      simp [noGap, finish, Line.emit, place, cut]
    · have blank : Text.isBlank c = true := by
        by_contra filled
        rw [cut, List.dropWhile_cons_of_neg filled] at allowed
        simp [comment] at allowed
      obtain ⟨noQuote, nothing⟩ :=
        read?_of_isBlank blank progress.constructors (text.drop (stop + 1))
      have noMarker : c ≠ '&' := by rintro rfl; contradiction
      have noEnd : c ≠ ';' := by rintro rfl; contradiction
      simp [noGap, comment, noQuote, noMarker, noEnd, lexemeAt?_eq _ here noQuote, cut, nothing,
        place, total]

theorem extract_cons {c : Char} {rest : List Char} (cut : text.drop pos = c :: rest)
    (count : Nat) : text.extract pos (pos + 1 + count) = c :: rest.take count := by
  have width : pos + 1 + count - pos = count + 1 := by omega
  rw [List.extract_eq_take_drop, width, cut, List.take_succ_cons]

/-- Nothing but a comment may stand behind a continuation marker. -/
theorem scan_marker (line : Nat) (progress : Progress) (inside : pos < text.length)
    (here : text[pos]? = some '&') :
    scan line text progress none pos =
      some (Line.afterMarker line (pos + 1) progress (text.drop (pos + 1))) := by
  have noGap : Text.isGap '&' = false := by decide
  have noComment : '&' ≠ '!' := by decide
  have noQuote : Lexeme.isQuote '&' = false := by decide
  have refused : (Text.trim (text.drop (pos + 1)) ≠ [] ∧
      (Text.trim (text.drop (pos + 1))).head? ≠ some '!') ↔
        ¬ (Text.trim (text.drop (pos + 1))).head?.all (· == '!') = true := by
    cases Text.trim (text.drop (pos + 1)) <;> simp
  rw [scan, dif_pos inside, here]
  by_cases allowed : (Text.trim (text.drop (pos + 1))).head?.all (· == '!') = true
  · have behind := scan_behind line progress inside allowed
    simp only [Option.bind_eq_bind, Option.bind_some, noGap, noComment, noQuote, refused,
      allowed, Bool.false_eq_true, not_true, if_false, if_true]
    rw [← behind]
    cases scan line text progress (some (pos + 1)) (pos + 1) <;> rfl
  · have total : pos + 1 + 1 + (text.length - (pos + 1)) = text.length + 1 := by omega
    simp only [Option.bind_eq_bind, Option.bind_some, noGap, noComment, noQuote, refused,
      allowed, Bool.false_eq_true, not_false_eq_true, if_false, if_true]
    rw [Line.afterMarker, if_neg (Line.head?_trim _ ▸ allowed), List.length_drop, total]
    rfl

/-- The loop reads what is left of the line. -/
theorem scan_eq (line : Nat) (progress : Progress) (within : pos ≤ text.length) :
    scan line text progress none pos =
      some (Line.readRest line (pos + 1) progress (text.drop pos)) := by
  induction pos using forward text generalizing progress with
  | outside pos outside =>
    obtain rfl : text.length = pos := by omega
    rw [scan, dif_neg outside, drop_eq_nil outside, Line.readRest.eq_def]
    rfl
  | inside pos c inside here cut ih =>
    have next (progress : Progress) := ih (pos + 1) (Nat.lt_succ_self pos) progress inside
    have total : pos + 1 + 1 + (text.length - (pos + 1)) = text.length + 1 := by omega
    by_cases marker : c = '&'
    · subst marker
      have noGap : Text.isGap '&' = false := by decide
      rw [scan_marker line progress inside here, cut, Line.readRest.eq_def]
      simp [noGap]
    rw [scan, dif_pos inside, here, cut, Line.readRest.eq_def]
    by_cases gap : Text.isGap c
    · simp [gap, next]
    by_cases comment : c = '!'
    · subst comment
      simp [gap, finish, cut, total]
    by_cases semicolon : c = ';'
    · subst semicolon
      have noQuote : Lexeme.isQuote ';' = false := by decide
      simp [gap, noQuote, next]
    by_cases quote : Lexeme.isQuote c
    · simp only [Option.bind_eq_bind, Option.bind_some, gap, comment, quote, marker, semicolon,
        Bool.false_eq_true, if_false, if_true, closingQuote_eq, Lexeme.read?_quote quote]
      cases closed : Lexeme.closingQuote? c (text.drop (pos + 1)) with
      | none =>
        simp [carryFrom_eq line progress ⟨c, line, pos + 1, []⟩ within, cut]
      | some body =>
        have bound := Lexeme.closingQuote?_lt closed
        rw [List.length_drop] at bound
        have moves : pos < pos + 1 + body + 1 := by omega
        have behind := ih _ moves ⟨true, progress.constructors⟩ (by omega)
        have literal := extract_cons cut (body + 1)
        simp only [← Nat.add_assoc] at literal
        have column : pos + 1 + 1 + (body + 1) = pos + 1 + body + 1 + 1 := by omega
        have place : pos + 1 + (body + 1) = pos + 1 + body + 1 := rfl
        simp [onward_bind moves, behind, literal, column, place, List.drop_drop]
    · simp only [Option.bind_eq_bind, Option.bind_some, gap, comment, quote, marker, semicolon,
        Bool.false_eq_true, if_false, lexemeAt?_eq _ here quote, cut]
      cases read : Lexeme.read? progress.constructors (c :: text.drop (pos + 1)) with
      | none => simp [total]
      | some lexeme =>
        have bound := Lexeme.tail_lt_length read
        rw [List.length_cons, List.length_drop] at bound
        have moves : pos < pos + 1 + lexeme.tail := by omega
        have behind := ih _ moves ⟨true, lexeme.depth⟩ (by omega)
        have column : pos + 1 + 1 + lexeme.tail = pos + 1 + lexeme.tail + 1 := by omega
        simp [onward_bind moves, behind, extract_cons cut lexeme.tail, column, List.drop_drop]

/-- A literal that is carried over is read on to its closing quote. -/
theorem resume_eq (line : Nat) (pending : Suspended) (within : pos ≤ text.length) :
    resume line text pending pos =
      some (Line.resume line (pos + 1) pending (text.drop pos)) := by
  rw [resume, Line.resume]
  cases pending.literal with
  | none => exact scan_eq line pending.progress within
  | some literal =>
    simp only [resumeLiteral, Line.resumeLiteral, closingQuote_eq, Option.bind_eq_bind,
      Option.bind_some]
    cases closed : Lexeme.closingQuote? literal.quote (text.drop pos) with
    | none => exact congrArg some (carryFrom_eq line pending.progress literal within)
    | some body =>
      have bound := Lexeme.closingQuote?_lt closed
      rw [List.length_drop] at bound
      have inside : pos + body + 1 ≤ text.length := by omega
      have behind := scan_eq line ⟨true, pending.progress.constructors⟩ inside
      have width : pos + body + 1 - pos = body + 1 := by omega
      have column : pos + 1 + body = pos + body + 1 := by omega
      have place : pos + (body + 1) = pos + body + 1 := rfl
      simp [behind, width, column, place, List.drop_drop]

/-- A line is read by position as it is read from the front. -/
theorem readLine_eq (line : Nat) (pending : Option Suspended) (text : List Char) :
    readLine line pending text = some (Line.read line pending text) := by
  have count := congrArg List.length
    (List.takeWhile_append_dropWhile (p := Text.isGap) (l := text))
  rw [List.length_append] at count
  have first :
      text.length - (text.dropWhile Text.isGap).length = Lexeme.leading Text.isGap text := by
    rw [Lexeme.leading]
    omega
  have within := Lexeme.leading_le Text.isGap text
  have body : text.drop (Lexeme.leading Text.isGap text) = text.dropWhile Text.isGap :=
    Line.drop_leading Text.isGap text
  rw [readLine.eq_def, Line.read.eq_def]
  dsimp only
  rw [first]
  generalize Lexeme.leading Text.isGap text = first at within body
  by_cases blank : Text.trim text = []
  · simp [blank]
  by_cases comment : (Text.trim text).head? = some '!'
  · simp [blank, comment, body]
  obtain ⟨c, rest, cut⟩ := List.exists_cons_of_ne_nil (Line.dropWhile_isGap_ne_nil blank)
  obtain ⟨here, behind⟩ := drop_eq_cons_iff.mp (body.trans cut)
  obtain ⟨inside, -⟩ := List.getElem?_eq_some_iff.mp here
  simp only [blank, comment, if_false]
  cases pending with
  | none =>
    by_cases directive : (Text.trim text).head? = some '#'
    · simp [directive, body]
    · simp [directive, scan_eq line .fresh within, body]
  | some pending =>
    by_cases marker : c = '&'
    · subst marker
      simp [here, resume_eq line pending (Nat.succ_le_of_lt inside), behind, cut]
    · simp [here, marker, resume_eq line pending within, body, cut]

end FortranStyle.Position
