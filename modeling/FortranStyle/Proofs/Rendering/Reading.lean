import FortranStyle.Proofs.Rendering.Forest
import FortranStyle.Proofs.Reading.Continuation

/-!
# Reading a rendered forest

Every line of a rendered forest reads as one statement with the words and the
expression of its clause, all of it on that line, and no line has an error.
-/

namespace FortranStyle

/-! ## Phrases -/

namespace Lexeme

theorem not_isQuote_of_isAlpha {c : Char} (alpha : c.isAlpha = true) : ¬isQuote c = true := by
  intro quote
  simp only [isQuote, Bool.or_eq_true, beq_iff_eq] at quote
  rcases quote with rfl | rfl <;> contradiction

/-- A name is spelled by itself. -/
theorem spells_name {c : Char} {more : List Char} (alpha : c.isAlpha = true)
    (nameChars : ∀ d ∈ more, isNameChar d = true) (depth : Nat) :
    Spells depth (c :: more) [(nameKind (c :: more), String.ofList (c :: more))] depth := by
  have run : leading isNameChar more = more.length := by
    rw [leading, List.takeWhile_eq_self_iff.mpr nameChars]
  have read : read? depth (c :: more ++ []) =
      some ⟨nameKind (c :: more), more.length, depth⟩ := by
    rw [List.append_nil, read?_name (not_isQuote_of_isAlpha alpha) alpha, run, List.take_length]
  have spells := Spells.lexeme read rfl Spells.nil
  rwa [List.append_nil] at spells

theorem spells_equals (depth : Nat) : Spells depth ['='] [(.operator, "=")] depth := by
  have read : read? depth ('=' :: [] ++ []) = some ⟨.operator, 0, depth⟩ := by
    cases depth <;> rfl
  exact Spells.lexeme read rfl Spells.nil

/-- The kinds of the tokens of a spelled text are those of code tokens. -/
theorem Spells.isCode {depth depth' : Nat} {text : List Char}
    {faces : List (TokenKind × String)} (spells : Spells depth text faces depth') :
    ∀ face ∈ faces, face.1.isCode = true := by
  induction spells with
  | nil => exact List.forall_mem_nil _
  | gap _ _ ih => exact ih
  | lexeme read _ _ ih =>
    rw [List.forall_mem_cons]
    exact ⟨isCode_read? read, ih⟩

/-- Spelled pieces are spelled one behind the other with blanks between them. -/
theorem Spells.join {depth middle depth' : Nat} {piece : List Char} {pieces : List (List Char)}
    {faces more : List (TokenKind × String)} (first : Spells depth piece faces middle)
    (rest : Spells middle ([' '].intercalate pieces) more depth') :
    Spells depth ([' '].intercalate (piece :: pieces)) (faces ++ more) depth' := by
  cases pieces with
  | nil =>
    have joined := first.append stops_nil rest
    simpa using joined
  | cons next pieces =>
    have joined := first.append (stops_blank _) (rest.gap (c := ' ') (by decide))
    simpa using joined

end Lexeme

namespace Rendering

open Lexeme

/-- The kind and text of the token of a word. -/
def Word.face : Word → TokenKind × String
  | name word => (nameKind word.chars, word.text)
  | equals => (.operator, "=")

/-- The kinds and texts of the tokens of an expression. -/
def Expression.faces (expression : Expression) : List (TokenKind × String) :=
  (code expression.chars).map Token.face

/-- The kinds and texts of the tokens of a statement. -/
def Phrase.faces (phrase : Phrase) : List (TokenKind × String) :=
  phrase.front.map Word.face ++
    (phrase.expression.elim [] Expression.faces ++ phrase.back.map Word.face)

/-- A name starts with a letter, and only characters of names follow. -/
theorem Name.exists_cons (name : Name) :
    ∃ c more, name.chars = c :: more ∧ c.isAlpha = true ∧ ∀ d ∈ more, isNameChar d = true := by
  obtain ⟨chars, isName⟩ := name
  cases chars with
  | nil => contradiction
  | cons c more =>
    simp only [List.head?_cons, Option.any_some, List.all_cons, Bool.and_eq_true] at isName
    exact ⟨c, more, rfl, isName.1, List.all_eq_true.mp isName.2.2⟩

theorem Word.spells (word : Word) (depth : Nat) : Spells depth word.chars [word.face] depth := by
  cases word with
  | name name =>
    obtain ⟨c, more, chars_eq, alpha, nameChars⟩ := name.exists_cons
    have spells := spells_name alpha nameChars depth
    rwa [← chars_eq] at spells
  | equals => exact spells_equals depth

theorem Expression.spells (expression : Expression) :
    ∃ depth, Spells 0 expression.chars expression.faces depth := by
  obtain ⟨faces, depth, spells, rfl⟩ :=
    Line.spells_of_readRest rfl expression.complete expression.ordinary
  exact ⟨depth, spells⟩

/-- Words in front of spelled pieces are spelled. -/
theorem spells_words {pieces : List (List Char)} {faces : List (TokenKind × String)}
    {depth depth' : Nat} (words : List Word)
    (rest : Spells depth ([' '].intercalate pieces) faces depth') :
    Spells depth ([' '].intercalate (words.map Word.chars ++ pieces))
      (words.map Word.face ++ faces) depth' := by
  induction words with
  | nil => exact rest
  | cons word words ih => exact (word.spells depth).join ih

/-- A statement is spelled by its words and its expression. -/
theorem Phrase.spells (phrase : Phrase) : ∃ depth, Spells 0 phrase.chars phrase.faces depth := by
  obtain ⟨front, expression, back⟩ := phrase
  rw [Phrase.chars, List.append_assoc]
  have nothing (depth : Nat) : Spells depth ([' '].intercalate []) [] depth := .nil
  have behind (depth : Nat) : Spells depth ([' '].intercalate (back.map Word.chars))
      (back.map Word.face) depth := by
    have words := spells_words back (nothing depth)
    simpa using words
  cases expression with
  | none => exact ⟨0, spells_words front (behind 0)⟩
  | some expression =>
    obtain ⟨depth, inside⟩ := expression.spells
    have rest := inside.join (behind depth)
    refine ⟨depth, ?_⟩
    have all := spells_words front rest
    simpa [Phrase.faces] using all

/-! ## Lines -/

/-- No line ends inside the text of a word. -/
theorem Word.onOneLine (word : Word) : ∀ c ∈ word.chars, Text.isLineEnd c = false := by
  intro c member
  rw [Bool.eq_false_iff]
  intro lineEnd
  simp only [Text.isLineEnd, Bool.or_eq_true, beq_iff_eq] at lineEnd
  cases word with
  | name name =>
    have nameChars := (Bool.and_eq_true_iff.mp name.isName).2
    have nameChar := List.all_eq_true.mp nameChars c member
    rcases lineEnd with rfl | rfl <;> contradiction
  | equals =>
    rcases lineEnd with rfl | rfl <;> contradiction

theorem mem_intercalate_blank {pieces : List (List Char)} {c : Char}
    (member : c ∈ [' '].intercalate pieces) : c = ' ' ∨ ∃ piece ∈ pieces, c ∈ piece := by
  induction pieces with
  | nil => contradiction
  | cons piece pieces ih =>
    cases pieces with
    | nil =>
      rw [List.intercalate_singleton] at member
      exact .inr ⟨piece, List.mem_cons_self, member⟩
    | cons next pieces =>
      rw [List.intercalate_cons_cons, List.mem_append, List.mem_append,
        List.mem_singleton] at member
      rcases member with (here | blank) | later
      · exact .inr ⟨piece, List.mem_cons_self, here⟩
      · exact .inl blank
      · obtain blank | ⟨other, listed, inside⟩ := ih later
        · exact .inl blank
        · exact .inr ⟨other, List.mem_cons_of_mem _ listed, inside⟩

/-- No line ends inside a rendered line. -/
theorem Row.onOneLine (row : Row) : ∀ c ∈ row.chars, Text.isLineEnd c = false := by
  intro c member
  obtain indent | inside := List.mem_append.mp member
  · rw [List.eq_of_mem_replicate indent]
    rfl
  · obtain rfl | ⟨piece, listed, inside⟩ := mem_intercalate_blank inside
    · rfl
    · simp only [List.mem_append, List.mem_map, Option.mem_toList] at listed
      rcases listed with (⟨word, -, rfl⟩ | ⟨expression, -, rfl⟩) | ⟨word, -, rfl⟩
      · exact word.onOneLine c inside
      · exact expression.onOneLine c inside
      · exact word.onOneLine c inside

/-- Every statement starts with a name. -/
theorem Clause.exists_front (clause : Clause) :
    ∃ name words, clause.phrase.front = .name name :: words := by
  rcases clause with statement | statement | statement | kind | heading | heading | _ | _ | ⟨_, _⟩
  · cases statement <;> exact ⟨_, _, rfl⟩
  · cases statement <;> exact ⟨_, _, rfl⟩
  · cases statement <;> exact ⟨_, _, rfl⟩
  all_goals exact ⟨_, _, rfl⟩

theorem Clause.faces_ne_nil (clause : Clause) : clause.phrase.faces ≠ [] := by
  obtain ⟨name, words, front_eq⟩ := clause.exists_front
  simp [Phrase.faces, front_eq]

/-- The text of every statement starts with a letter. -/
theorem Clause.exists_cons (clause : Clause) :
    ∃ c more, clause.phrase.chars = c :: more ∧ c.isAlpha = true := by
  obtain ⟨name, words, front_eq⟩ := clause.exists_front
  obtain ⟨c, more, chars_eq, alpha, -⟩ := name.exists_cons
  rw [Phrase.chars, front_eq, List.map_cons, List.cons_append, List.cons_append]
  generalize words.map Word.chars ++ _ ++ _ = pieces
  cases pieces with
  | nil => exact ⟨c, more, by simp [Word.chars, chars_eq], alpha⟩
  | cons piece pieces =>
    rw [List.intercalate_cons_cons, Word.chars, chars_eq]
    exact ⟨c, _, rfl, alpha⟩

theorem isBlank_of_isAlpha {c : Char} (alpha : c.isAlpha = true) : Text.isBlank c = false := by
  rw [isAlpha_iff_toNat] at alpha
  simp only [Text.isBlank, Bool.or_eq_false_iff, Bool.and_eq_false_iff, decide_eq_false_iff_not,
    beq_eq_false_iff_ne]
  omega

theorem ne_of_isAlpha {c d : Char} (alpha : c.isAlpha = true) (other : d.isAlpha = false) :
    c ≠ d := by
  rintro rfl
  rw [alpha] at other
  contradiction

/-- A statement that was read on a line has the words and the expression of a
clause. -/
structure Written (line : Nat) (clause : Clause) (statement : List Token) : Prop where
  faces : statement.map Token.face = clause.phrase.faces
  onLine : ∀ token ∈ statement, token.line = line

/-- A rendered line reads as its statement. -/
theorem Row.read (row : Row) (line : Nat) :
    ∃ statement stop, Written line row.clause statement ∧ stop.kind = .endOfLine ∧
      Line.read line none row.chars = (statement ++ [stop], .complete) := by
  obtain ⟨c, more, chars_eq, alpha⟩ := row.clause.exists_cons
  obtain ⟨depth, spells⟩ := row.clause.phrase.spells
  have indent : ∀ c ∈ List.replicate (2 * row.depth) ' ', Text.isGap c = true := by
    intro c member
    rw [List.eq_of_mem_replicate member]
    rfl
  have filled := isBlank_of_isAlpha alpha
  have code := Line.isSilent_eq_false_of_first indent filled (ne_of_isAlpha alpha rfl) more
  obtain ⟨-, body_eq⟩ := Line.leading_append_cons indent (Line.isGap_eq_false filled) more
  have noDirective : (Text.trim (List.replicate (2 * row.depth) ' ' ++ c :: more)).head? ≠
      some '#' := by
    rw [Line.head?_trim_append, Line.trim_eq_nil_iff.mpr fun c member =>
      Text.isBlank_of_isGap (indent c member), Line.head?_trim]
    simpa [filled] using ne_of_isAlpha alpha rfl
  rw [Row.chars, chars_eq, Line.read_none code, if_neg noDirective, body_eq]
  rw [chars_eq] at spells
  obtain ⟨statement, faces_eq, lines_eq, lineEnd, read_eq⟩ :=
    Line.readRest_of_spells spells line
      (Line.firstColumn (List.replicate (2 * row.depth) ' ' ++ c :: more)) false
  refine ⟨statement, Token.statementEnd '\n' line lineEnd, ⟨faces_eq, lines_eq⟩, rfl, ?_⟩
  have opened : (false || !row.clause.phrase.faces.isEmpty) = true := by
    simp [row.clause.faces_ne_nil]
  rw [opened] at read_eq
  exact read_eq

/-! ## All lines -/

/-- Successive statements were read on successive lines. -/
inductive AllWritten : Nat → List Row → List (List Token) → Prop
  | nil {line : Nat} : AllWritten line [] []
  | cons {line : Nat} {row : Row} {rows : List Row} {statement : List Token}
      {statements : List (List Token)} (first : Written line row.clause statement)
      (rest : AllWritten (line + 1) rows statements) :
      AllWritten line (row :: rows) (statement :: statements)

theorem AllWritten.exists_append {line : Nat} {first second : List Row}
    {statements : List (List Token)} (written : AllWritten line (first ++ second) statements) :
    ∃ front back, statements = front ++ back ∧ AllWritten line first front ∧
      AllWritten (line + first.length) second back := by
  induction first generalizing line statements with
  | nil => exact ⟨[], statements, rfl, .nil, written⟩
  | cons row rows ih =>
    cases written with
    | @cons _ _ _ statement _ here rest =>
      obtain ⟨front, back, rfl, frontWritten, backWritten⟩ := ih rest
      refine ⟨statement :: front, back, rfl, .cons here frontWritten, ?_⟩
      rwa [List.length_cons, Nat.add_comm rows.length, ← Nat.add_assoc]

/-- A run of code tokens is not cut. -/
theorem splitAtEnds_of_isCode {tokens : List Token}
    (code : ∀ token ∈ tokens, token.isCode = true) : Tokenized.splitAtEnds tokens = [tokens] := by
  induction tokens with
  | nil => rfl
  | cons token rest ih =>
    rw [List.forall_mem_cons] at code
    have goesOn : token.kind ≠ .endOfLine := by
      intro ends
      simp [Token.isCode, TokenKind.isCode, ends] at code
    rw [Tokenized.splitAtEnds, if_neg goesOn, ih code.2]
    rfl

/-- Code tokens with the end of their statement are one statement. -/
theorem statementsOf_append_stop {statement : List Token} {stop : Token} (rest : List Token)
    (code : ∀ token ∈ statement, token.isCode = true) (filled : statement ≠ [])
    (ends : stop.kind = .endOfLine) :
    Tokenized.statementsOf (statement ++ [stop] ++ rest) =
      statement :: Tokenized.statementsOf rest := by
  have loud : statement.filter (!·.kind.isSilent) = statement := by
    rw [List.filter_eq_self]
    intro token member
    exact (Bool.and_eq_true_iff.mp (code token member)).1
  have stopLoud : (!stop.kind.isSilent) = true := by
    rw [ends]
    rfl
  have notEmpty : (!statement.isEmpty) = true := by
    simp [filled]
  rw [Tokenized.statementsOf, List.append_assoc, List.filter_append, loud, List.singleton_append,
    List.filter_cons_of_pos (by exact stopLoud), Tokenized.splitAtEnds_append_cons _ _ ends,
    splitAtEnds_of_isCode code, List.singleton_append, List.filter_cons_of_pos (by exact notEmpty)]
  rfl

/-- The tokens of a statement are code tokens. -/
theorem Written.isCode {line : Nat} {clause : Clause} {statement : List Token}
    (written : Written line clause statement) : ∀ token ∈ statement, token.isCode = true := by
  obtain ⟨depth, spells⟩ := clause.phrase.spells
  intro token member
  have face := spells.isCode token.face
  rw [← written.faces] at face
  exact face (List.mem_map_of_mem member)

theorem Written.ne_nil {line : Nat} {clause : Clause} {statement : List Token}
    (written : Written line clause statement) : statement ≠ [] := by
  rintro rfl
  exact clause.faces_ne_nil written.faces.symm

/-- The rendered lines read without an error as their statements. -/
theorem readLines_rows (rows : List Row) (line : Nat) :
    (Tokenized.readLines line none (rows.map Row.chars)).errors = [] ∧
      AllWritten line rows
        (Tokenized.statementsOf (Tokenized.readLines line none (rows.map Row.chars)).tokens) := by
  induction rows generalizing line with
  | nil => exact ⟨rfl, .nil⟩
  | cons row rows ih =>
    obtain ⟨statement, stop, written, ends, read_eq⟩ := row.read line
    obtain ⟨noErrors, allWritten⟩ := ih (line + 1)
    have part_eq : Tokenized.linePart line none row.chars = ⟨statement ++ [stop], [], []⟩ := by
      rw [Tokenized.linePart, read_eq]
      rfl
    rw [List.map_cons, Tokenized.readLines, part_eq, read_eq]
    constructor
    · exact noErrors
    · rw [Tokenized.Part.tokens_append,
        statementsOf_append_stop _ written.isCode written.ne_nil ends]
      exact .cons written allWritten

/-- The text of a forest is read without an error, and every line is one
statement. -/
theorem Forest.read_render (forest : Forest) :
    (Tokenized.ofLines forest.render).errors = [] ∧
      AllWritten 1 forest.rows (Tokenized.ofLines forest.render).statements ∧
      (Tokenized.ofLines forest.render).lines.length = forest.rows.length := by
  have whole : forest.render.map Tokenized.lineText = forest.rows.map Row.chars := by
    rw [Forest.render, List.map_map]
    apply List.map_congr_left
    intro row _
    rw [Function.comp_apply, Tokenized.lineText, String.toList_ofList]
    exact Line.dropEndWhile_eq_self row.onOneLine
  obtain ⟨noErrors, allWritten⟩ := readLines_rows forest.rows 1
  rw [← whole] at noErrors allWritten
  refine ⟨noErrors, allWritten, ?_⟩
  simp [Tokenized.ofLines, Forest.render]

end Rendering

end FortranStyle
