import FortranStyle.Proofs.Insertion.Reading
import FortranStyle.Proofs.Literal.Front
import FortranStyle.Proofs.Literal.Quoted

/-!
# Literals over lines

A literal is written with its quotes doubled, on one line or cut at any number of
places.  A cut is a marker at the end of a line and one at the start of the next line
of code; blanks may stand behind the first marker, gaps in front of the second, and
silent lines between the two.  Wherever the text is cut, the reader puts the same
literal together, and the markers and comments in the cuts are all it reads besides.
-/

namespace FortranStyle

/-! ## Writing a literal -/

/-- A cut in a literal, and the piece of its text between this cut and the next. -/
structure Fold where
  /-- What stands behind the marker at the end of the line. -/
  blanks : List Char
  /-- The silent lines behind it. -/
  between : List (List Char)
  /-- What stands in front of the marker at the start of the line that goes on. -/
  margin : List Char
  piece : List Char
  isBlank : ∀ c ∈ blanks, Text.isBlank c = true
  isSilent : ∀ cs ∈ between, Line.isSilent cs = true
  isGap : ∀ c ∈ margin, Text.isGap c = true

/-- A literal as it is written: its text up to the first cut, and its cuts. -/
structure Literal where
  quote : Char
  piece : List Char
  folds : List Fold
  isQuote : Lexeme.isQuote quote = true

namespace Fold

variable (quote : Char)

/-- The lines of a literal from the one on that starts with `front`, with `behind`
at the end of the last. -/
def lines (front piece behind : List Char) : List Fold → List (List Char)
  | [] => [front ++ (Lexeme.doubled quote piece ++ quote :: behind)]
  | fold :: folds =>
      (front ++ (Lexeme.doubled quote piece ++ '&' :: fold.blanks)) ::
        (fold.between ++ lines (fold.margin ++ ['&']) fold.piece behind folds)

/-- The markers and comments in the cuts of a literal, when a piece starts at the
column. -/
def joints (line column : Nat) (piece : List Char) : List Fold → List Token
  | [] => []
  | fold :: folds =>
      let next := line + 1 + fold.between.length
      Token.onLine .continuation line (column + (Lexeme.doubled quote piece).length) ['&'] ::
        ((Tokenized.linesPart (line + 1) none fold.between).tokens ++
          Token.onLine .continuation next (fold.margin.length + 1) ['&'] ::
            joints next (fold.margin.length + 1 + 1) fold.piece folds)

/-- The place of the closing quote, when a piece starts at the column. -/
def closing (line column : Nat) (piece : List Char) : List Fold → Nat × Nat
  | [] => (line, column + (Lexeme.doubled quote piece).length)
  | fold :: folds =>
      closing (line + 1 + fold.between.length) (fold.margin.length + 1 + 1) fold.piece folds

/-- The text of a literal from a piece on. -/
def text (piece : List Char) (folds : List Fold) : List Char :=
  piece ++ folds.flatMap Fold.piece

end Fold

namespace Literal

variable (literal : Literal)

/-- The text that the literal stands for. -/
def text : List Char :=
  Fold.text literal.piece literal.folds

/-- The lines of the literal, between what stands in front of it on its first line and
behind it on its last. -/
def lines (front behind : List Char) : List (List Char) :=
  Fold.lines literal.quote (front ++ [literal.quote]) literal.piece behind literal.folds

/-- The markers and comments in the cuts of a literal that opens at a place. -/
def joints (line column : Nat) : List Token :=
  Fold.joints literal.quote line (column + 1) literal.piece literal.folds

/-- The place of the closing quote of a literal that opens at a place. -/
def closing (line column : Nat) : Nat × Nat :=
  Fold.closing literal.quote line (column + 1) literal.piece literal.folds

/-- The token of a literal that opens at a place. -/
def token (line column : Nat) : Token where
  kind := .string
  text := String.ofList
    (literal.quote :: Lexeme.doubled literal.quote literal.text ++ [literal.quote])
  line := line
  column := column
  endLine := (literal.closing line column).1
  endColumn := (literal.closing line column).2

end Literal

/-! ## Reading a line of a literal -/

namespace Line

variable {line column : Nat} {progress : Progress} {literal : OpenLiteral} {piece : List Char}

theorem terminates_fold {blanks : List Char} (blank : ∀ c ∈ blanks, Text.isBlank c = true)
    (quote : Char) (piece : List Char) :
    Terminates quote (Lexeme.doubled quote piece ++ '&' :: blanks) := by
  intro _
  rw [carriedPart?_append blank]
  exact Option.some_ne_none _

theorem terminates_last {quote : Char} {behind : List Char} (alone : behind.head? ≠ some quote)
    (piece : List Char) :
    Terminates quote (Lexeme.doubled quote piece ++ quote :: behind) := by
  intro unclosed
  rw [Lexeme.closingQuote?_last alone] at unclosed
  contradiction

/-- The last line of a literal. -/
theorem resumeLiteral_last {behind : List Char} (alone : behind.head? ≠ some literal.quote) :
    resumeLiteral line column progress literal
        (Lexeme.doubled literal.quote piece ++ literal.quote :: behind) =
      emit (closedLiteral line (column + (Lexeme.doubled literal.quote piece).length) literal
          (Lexeme.doubled literal.quote piece ++ [literal.quote]))
        (readRest line (column + (Lexeme.doubled literal.quote piece).length + 1)
          ⟨true, progress.constructors⟩ behind) := by
  have closed : Lexeme.closingQuote? literal.quote
      (Lexeme.doubled literal.quote piece ++ [literal.quote] ++ behind) =
        some (Lexeme.doubled literal.quote piece).length := by
    rw [List.append_assoc, List.singleton_append, Lexeme.closingQuote?_last alone]
  have length_eq : (Lexeme.doubled literal.quote piece ++ [literal.quote]).length =
      (Lexeme.doubled literal.quote piece).length + 1 := List.length_append
  have inside : (Lexeme.doubled literal.quote piece).length <
      (Lexeme.doubled literal.quote piece ++ [literal.quote]).length :=
    length_eq ▸ Nat.lt_succ_self _
  have read : resumeLiteral line column progress literal
      (Lexeme.doubled literal.quote piece ++ [literal.quote] ++ behind) = _ :=
    resumeLiteral_append closed inside
  rwa [List.append_assoc, List.singleton_append, ← length_eq, List.take_length, List.drop_length]
    at read

/-- The text of a literal is put together from the pieces in front of its cuts and what
follows them. -/
theorem closedLiteral_fold (literal : OpenLiteral) (piece : List Char) (fold : Fold)
    (folds : List Fold) (line column : Nat) :
    closedLiteral line column
        { literal with text := literal.text ++ Lexeme.doubled literal.quote piece }
        (Lexeme.doubled literal.quote (Fold.text fold.piece folds) ++ [literal.quote]) =
      closedLiteral line column literal
        (Lexeme.doubled literal.quote (Fold.text piece (fold :: folds)) ++ [literal.quote]) := by
  have text_eq : Fold.text piece (fold :: folds) = piece ++ Fold.text fold.piece folds := rfl
  rw [text_eq, Lexeme.doubled_append, closedLiteral, closedLiteral, List.append_assoc,
    List.append_assoc]

/-- A line of a literal in front of a cut. -/
theorem resumeLiteral_fold {blanks : List Char} (blank : ∀ c ∈ blanks, Text.isBlank c = true)
    (isQuote : Lexeme.isQuote literal.quote = true) :
    resumeLiteral line column progress literal
        (Lexeme.doubled literal.quote piece ++ '&' :: blanks) =
      let marker := column + (Lexeme.doubled literal.quote piece).length
      ([Token.onLine .continuation line marker ['&']],
        .suspended ⟨line, marker, progress,
          some { literal with text := literal.text ++ Lexeme.doubled literal.quote piece }⟩) := by
  rw [resumeLiteral, Lexeme.closingQuote?_fold blank isQuote, carry, carriedPart?_append blank]

end Line

/-! ## Reading the lines of a literal -/

namespace Tokenized

/-- Silent lines read as their comments, whatever is pending. -/
theorem linesPart_silent {lines : List (List Char)}
    (silent : ∀ cs ∈ lines, Line.isSilent cs = true) (line : Nat) (pending : Option Suspended) :
    (linesPart line pending lines).tokens = (linesPart line none lines).tokens ∧
      ∀ token ∈ (linesPart line none lines).tokens, token.kind = .comment := by
  induction lines generalizing line with
  | nil => exact ⟨rfl, List.forall_mem_nil _⟩
  | cons cs rest ih =>
    rw [List.forall_mem_cons] at silent
    obtain ⟨same, comments⟩ := ih silent.2 (line + 1)
    have here (pending : Option Suspended) : (linePart line pending cs).tokens =
        (Line.read line none cs).1 := by
      change (Line.read line pending cs).1 = _
      rw [Line.read_of_isSilent silent.1, Line.read_of_isSilent silent.1]
    rw [linesPart, linesPart, Part.tokens_append, Part.tokens_append, here, here,
      (loud_linePart silent.1 line pending).2, (loud_linePart silent.1 line none).2, same]
    refine ⟨rfl, List.forall_mem_append.mpr ⟨?_, comments⟩⟩
    rw [Line.read_of_isSilent silent.1]
    intro token member
    dsimp only at member
    split at member
    · contradiction
    · rw [List.mem_singleton.mp member]
      rfl

variable {line : Nat} {pending : Option Suspended} {code : List Token} {front behind : List Char}
  {progress : Progress} {literal : OpenLiteral}

/-- The line that goes on with a literal starts with its marker. -/
theorem read_margin {margin : List Char} (onlyGaps : ∀ c ∈ margin, Text.isGap c = true)
    (rest : Suspended) (carried : rest.literal = some literal) (cs : List Char) :
    Line.read line (some rest) (margin ++ ['&'] ++ cs) =
      Line.prepend [Token.onLine .continuation line (margin.length + 1) ['&']]
        (Line.resumeLiteral line ((margin ++ ['&']).length + 1) rest.progress literal cs) := by
  have code := Line.isSilent_eq_false_of_first (c := '&') onlyGaps (by decide) (by decide) cs
  obtain ⟨column_eq, body_eq⟩ := Line.leading_append_cons (c := '&') onlyGaps (by decide) cs
  rw [List.append_assoc, List.singleton_append, Line.read_some_marker rest code body_eq,
    Line.firstColumn, column_eq, Line.resume, carried, List.length_append]
  rfl

/-- A literal over lines is one token, behind the markers and comments of its cuts, and
what stands behind it is read from there. -/
theorem readLines_lines (below : List (List Char)) (isQuote : Lexeme.isQuote literal.quote = true)
    (alone : behind.head? ≠ some literal.quote) (piece : List Char) (folds : List Fold)
    (starts : ∀ cs, Line.Terminates literal.quote cs → Line.read line pending (front ++ cs) =
      Line.prepend code (Line.resumeLiteral line (front.length + 1) progress literal cs)) :
    let place := Fold.closing literal.quote line (front.length + 1) piece folds
    let rest := Line.readRest place.1 (place.2 + 1) ⟨true, progress.constructors⟩ behind
    let later := readLines (place.1 + 1) rest.2.pending below
    let part := readLines line pending
      (Fold.lines literal.quote front piece behind folds ++ below)
    part.tokens = code ++ (Fold.joints literal.quote line (front.length + 1) piece folds ++
        Line.closedLiteral place.1 place.2 literal
          (Lexeme.doubled literal.quote (Fold.text piece folds) ++ [literal.quote]) ::
            (rest.1 ++ later.tokens)) ∧
      part.errors = rest.2.errors ++ later.errors := by
  induction folds generalizing line pending front code literal piece with
  | nil =>
    have read_eq := starts _ (Line.terminates_last alone piece)
    rw [Line.resumeLiteral_last alone] at read_eq
    dsimp only [Fold.lines, Fold.closing, Fold.joints, Fold.text]
    rw [List.singleton_append, readLines, Part.tokens_append, Part.errors_append, linePart,
      read_eq, List.flatMap_nil, List.append_nil]
    exact ⟨List.append_assoc .., rfl⟩
  | cons fold folds ih =>
    let carried : OpenLiteral :=
      { literal with text := literal.text ++ Lexeme.doubled literal.quote piece }
    let suspended : Suspended :=
      ⟨line, front.length + 1 + (Lexeme.doubled literal.quote piece).length, progress,
        some carried⟩
    have carriedQuote : Lexeme.isQuote carried.quote = true := isQuote
    have read_eq := starts _ (Line.terminates_fold fold.isBlank literal.quote piece)
    rw [Line.resumeLiteral_fold fold.isBlank isQuote] at read_eq
    have tokens_eq := (linesPart_silent fold.isSilent (line + 1) (some suspended)).1
    obtain ⟨loud, pending_eq⟩ := loud_linesPart fold.isSilent (line + 1) (some suspended)
    have errors_eq : (linesPart (line + 1) (some suspended) fold.between).errors = [] :=
      congrArg Part.errors loud
    -- The line that goes on reads like the first, with its marker in front.
    obtain ⟨tokens, errors⟩ := ih carriedQuote alone fold.piece fun cs _ =>
      read_margin fold.isGap suspended rfl cs
    rw [List.length_append, List.length_singleton] at tokens errors
    dsimp only [Fold.lines, Fold.closing, Fold.joints]
    rw [List.cons_append, List.append_assoc, readLines, Part.tokens_append, Part.errors_append,
      linePart, read_eq]
    change _ ++ (readLines (line + 1) (some suspended) _).tokens = _ ∧
      [] ++ (readLines (line + 1) (some suspended) _).errors = _
    rw [readLines_append, Part.tokens_append, Part.errors_append, tokens_eq, errors_eq, pending_eq,
      tokens, errors]
    refine ⟨?_, rfl⟩
    have token_eq := Line.closedLiteral_fold literal piece fold folds
    change (code ++ _) ++ _ = _
    rw [← token_eq]
    simp only [List.append_assoc, List.cons_append, List.nil_append]
    rfl

/-- The cuts of a literal hold markers and comments only. -/
theorem kind_of_mem_joints (quote : Char) (line column : Nat) (piece : List Char)
    (folds : List Fold) :
    ∀ token ∈ Fold.joints quote line column piece folds,
      token.kind = .continuation ∨ token.kind = .comment := by
  induction folds generalizing line column piece with
  | nil => exact List.forall_mem_nil _
  | cons fold folds ih =>
    have comments := (linesPart_silent fold.isSilent (line + 1) none).2
    rw [Fold.joints, List.forall_mem_cons, List.forall_mem_append, List.forall_mem_cons]
    exact ⟨.inl rfl, fun token member => .inr (comments token member), .inl rfl, ih _ _ _⟩

/-- A literal behind code is one token, with the text of the literal and from its first
quote to its last, however it is cut.  What stands in front of it and behind it is read
as it is there, and there is no error in it.  And every literal that is read holds its
quote only doubled. -/
theorem literals_survive (source : List String) :
    (∀ (literal : Literal) (above below : List (List Char)) (front behind : List Char),
      source.map lineText = above ++ (literal.lines front behind ++ below) →
      Line.CodeInFront (1 + above.length) (pendingBehind 1 none above) front →
      front.getLast? ≠ some literal.quote → behind.head? ≠ some literal.quote →
      let line := 1 + above.length
      let column := front.length + 1
      let place := literal.closing line column
      (∀ token ∈ literal.joints line column,
        token.kind = .continuation ∨ token.kind = .comment) ∧
      ∃ code constructors,
        Line.IsCodeOf line column (Line.read line (pendingBehind 1 none above) front) code ∧
        let rest := Line.readRest place.1 (place.2 + 1) ⟨true, constructors⟩ behind
        let later := readLines (place.1 + 1) rest.2.pending below
        (ofLines source).tokens = (linesPart 1 none above).tokens ++ (code ++
          (literal.joints line column ++ literal.token line column :: (rest.1 ++ later.tokens))) ∧
        (ofLines source).errors =
          (linesPart 1 none above).errors ++ (rest.2.errors ++ later.errors)) ∧
    ∀ token ∈ (ofLines source).tokens, token.kind = .string → token.IsQuoted := by
  refine ⟨?_, isQuoted_of_string source⟩
  intro literal above below front behind split inFront apart alone line column place
  refine ⟨kind_of_mem_joints literal.quote line (column + 1) literal.piece literal.folds, ?_⟩
  obtain ⟨code, progress, isCode, on⟩ :=
    Line.readsOn_read literal.isQuote inFront fun _ => apart
  let opening : OpenLiteral := ⟨literal.quote, line, column, [literal.quote]⟩
  have starts : ∀ cs, Line.Terminates literal.quote cs →
      Line.read line (pendingBehind 1 none above) (front ++ [literal.quote] ++ cs) =
        Line.prepend code (Line.resumeLiteral line ((front ++ [literal.quote]).length + 1) progress
          opening cs) := by
    intro cs terminates
    rw [List.append_assoc, List.singleton_append, List.length_append]
    exact (on cs).trans (congrArg (Line.prepend code)
      (Line.readRest_quote literal.isQuote terminates))
  have openingQuote : Lexeme.isQuote opening.quote = true := literal.isQuote
  obtain ⟨tokens, errors⟩ :=
    readLines_lines below openingQuote alone literal.piece literal.folds starts
  rw [List.length_append, List.length_singleton] at tokens errors
  refine ⟨code, progress.constructors, isCode, ?_, ?_⟩
  · rw [(ofLines_eq source).1, split, readLines_append, Part.tokens_append]
    exact congrArg ((linesPart 1 none above).tokens ++ ·) tokens
  · rw [(ofLines_eq source).2, split, readLines_append, Part.errors_append]
    exact congrArg ((linesPart 1 none above).errors ++ ·) errors

/-- A literal in an array constructor, cut in front of a doubled quote: its text ends a
line in a blank, goes on behind a comment and a blank line, and holds a semicolon and an
exclamation mark. -/
theorem literals_survive_fold :
    let source := ["call p(/ 'it &  ", "! it's", "", "  &''; a ! b', y /)"]
    let fold : Fold :=
      { blanks := [' ', ' '], between := ["! it's".toList, []], margin := [' ', ' '],
        piece := "'; a ! b".toList, isBlank := List.all_eq_true.mp rfl,
        isSilent := by decide +kernel, isGap := List.all_eq_true.mp rfl }
    let literal : Literal := ⟨'\'', "it ".toList, [fold], rfl⟩
    let front := "call p(/ ".toList
    let behind := ", y /)".toList
    source.map lineText = [] ++ (literal.lines front behind ++ []) ∧
      Line.CodeInFront 1 none front ∧ front.getLast? ≠ some literal.quote ∧
      behind.head? ≠ some literal.quote ∧
      ∃ token ∈ (ofLines source).tokens, token.text = "'it ''; a ! b'" ∧
        token.start = (1, 10) ∧ token.stop = (4, 13) ∧ token.IsQuoted := by
  intro source fold literal front behind
  have split : source.map lineText = [] ++ (literal.lines front behind ++ []) := by
    decide +kernel
  have inFront : Line.CodeInFront 1 none front :=
    .code (by decide +kernel) (by decide +kernel) (by decide +kernel)
  have apart : front.getLast? ≠ some literal.quote := by decide +kernel
  have alone : behind.head? ≠ some literal.quote := by decide +kernel
  obtain ⟨survives, quoted⟩ := literals_survive source
  obtain ⟨-, code, constructors, -, tokens, -⟩ :=
    survives literal [] [] front behind split inFront apart alone
  have member : literal.token 1 10 ∈ (ofLines source).tokens := by
    rw [tokens]
    simp [front]
  exact ⟨split, inFront, apart, alone, _, member, by decide +kernel, by decide +kernel,
    by decide +kernel, quoted _ member rfl⟩

/-- Code that ends in a quote takes a literal with the same quote behind it for its own:
the two quotes are a doubled one.  And blanks behind the marker at the start of a line
belong to the literal, while those behind the marker at the end of a line do not. -/
theorem not_literals_survive_behind_quote :
    let literal : Literal := ⟨'\'', ['b'], [], rfl⟩
    (["x = 'a''b'"].map lineText = literal.lines "x = 'a'".toList [] ∧
      Line.CodeInFront 1 none "x = 'a'".toList ∧
      literal.token 1 8 ∉ (ofLines ["x = 'a''b'"]).tokens) ∧
    ∀ token ∈ (ofLines ["x = 'a& ", "& b'"]).tokens, token.text ≠ "'ab'" :=
  ⟨⟨by decide +kernel, .code (by decide +kernel) (by decide +kernel) (by decide +kernel),
    by decide +kernel⟩, by decide +kernel⟩

end Tokenized

end FortranStyle
