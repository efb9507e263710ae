import FortranStyle.LexError
import FortranStyle.Text.Blank
import FortranStyle.Token.Lexeme

/-!
# Reading one line

A line is read to its end, to a continuation marker, or to the place where it
breaks the rules.  What a later line has to know is exactly what a trailing
marker leaves behind: a value of `Suspended`.  A line that ends a statement, and
a line that cannot be read, leave nothing.
-/

namespace FortranStyle

/-- A character literal that is carried over to the next line: its quote, the
place of its opening quote, and its text so far, opening quote included. -/
structure OpenLiteral where
  quote : Char
  line : Nat
  column : Nat
  text : List Char
deriving DecidableEq, Repr

/-- What the reader knows about the statement it is in. -/
structure Progress where
  /-- A token of the statement has been read. -/
  statementOpen : Bool
  /-- The number of array constructors that are open. -/
  constructors : Nat
deriving DecidableEq, Repr

/-- The start of a statement. -/
def Progress.fresh : Progress :=
  ⟨false, 0⟩

/-- A line that ended in a continuation marker: the place of the marker, the
statement it belongs to, and the literal it cuts, if it cuts one. -/
structure Suspended where
  line : Nat
  column : Nat
  progress : Progress
  literal : Option OpenLiteral
deriving DecidableEq, Repr

/-- How the reading of a line ends. -/
inductive LineEnd
  | complete
  | suspended (rest : Suspended)
  | failed (error : LexError)
deriving DecidableEq, Repr

namespace LineEnd

/-- What the next line has to continue. -/
def pending : LineEnd → Option Suspended
  | suspended rest => some rest
  | _ => none

/-- The error of the line, if it has one. -/
def errors : LineEnd → List LexError
  | failed error => [error]
  | _ => []

/-- A line without tokens of its own leaves things as they were. -/
def unchanged : Option Suspended → LineEnd
  | some rest => suspended rest
  | none => complete

end LineEnd

/-- The end of an open statement, and nothing when none is open. -/
def Progress.close (progress : Progress) (mark : Char) (line column : Nat) : List Token :=
  if progress.statementOpen then [Token.statementEnd mark line column] else []

namespace Line

/-- The tokens of a line and how the line ends. -/
abbrev Reading := List Token × LineEnd

/-- Put a token in front of a reading. -/
def emit (token : Token) (reading : Reading) : Reading :=
  (token :: reading.1, reading.2)

/-- End a line with an error.  The statement ends with the line. -/
def fail (progress : Progress) (cause : LexCause) (line column lineEnd : Nat) : Reading :=
  (progress.close '\n' line lineEnd, .failed ⟨cause, line, column⟩)

/-- Read what follows a continuation marker: a comment or nothing.  The marker
stands in front of `cs` at `column`. -/
def afterMarker (line column : Nat) (progress : Progress) (cs : List Char) : Reading :=
  let marker := Token.onLine .continuation line column ['&']
  let gap := Lexeme.leading Text.isGap cs
  let suspended := LineEnd.suspended ⟨line, column, progress, none⟩
  if (cs.dropWhile Text.isBlank).head?.all (· == '!') then
    match cs.drop gap with
    | [] => ([marker], suspended)
    | c :: rest =>
        let at' := column + 1 + gap
        if c = '!' then ([marker, Token.onLine .comment line at' (c :: rest)], suspended)
        else emit marker (fail progress (.unexpected c) line at' (column + 1 + cs.length))
  else
    fail progress .codeAfterMarker line column (column + 1 + cs.length)

/-- The part of a literal on a line that carries it over: everything before the
ampersand that is the last character which is not blank. -/
def carriedPart? (cs : List Char) : Option (List Char) :=
  let text := Text.trimEnd cs
  if text.getLast? = some '&' then some text.dropLast else none

/-- Carry a literal over to the next line, with `cs` as the rest of this one. -/
def carry (line column : Nat) (progress : Progress) (literal : OpenLiteral) (cs : List Char) :
    Reading :=
  match carriedPart? cs with
  | some part =>
      let marker := column + part.length
      ([Token.onLine .continuation line marker ['&']],
        .suspended ⟨line, marker, progress, some { literal with text := literal.text ++ part }⟩)
  | none =>
      fail progress (.unterminated literal.quote literal.line) line column (column + cs.length)

/-- Read the rest of a line, `column` being the place of its first
character. -/
def readRest (line column : Nat) (progress : Progress) : List Char → Reading
  | [] => (progress.close '\n' line column, .complete)
  | c :: rest =>
      if Text.isGap c then
        readRest line (column + 1) progress rest
      else if c = '!' then
        emit (Token.onLine .comment line column (c :: rest))
          (progress.close '\n' line (column + 1 + rest.length), .complete)
      else if c = '&' then
        afterMarker line column progress rest
      else if c = ';' then
        let (tokens, ending) := readRest line (column + 1) .fresh rest
        (progress.close ';' line column ++ tokens, ending)
      else
        match Lexeme.read? progress.constructors (c :: rest) with
        | some lexeme =>
            emit (Token.onLine lexeme.kind line column (c :: rest.take lexeme.tail))
              (readRest line (column + 1 + lexeme.tail) ⟨true, lexeme.depth⟩
                (rest.drop lexeme.tail))
        | none =>
            if Lexeme.isQuote c then carry line column progress ⟨c, line, column, []⟩ (c :: rest)
            else fail progress (.unexpected c) line column (column + 1 + rest.length)
termination_by cs => cs.length
decreasing_by all_goals (simp only [List.length_cons, List.length_drop]; omega)

/-- Read a line that goes on with a character literal. -/
def resumeLiteral (line column : Nat) (progress : Progress) (literal : OpenLiteral)
    (cs : List Char) : Reading :=
  match Lexeme.closingQuote? literal.quote cs with
  | some body =>
      emit
        { kind := .string, text := String.ofList (literal.text ++ cs.take (body + 1)),
          line := literal.line, column := literal.column, endLine := line,
          endColumn := column + body }
        (readRest line (column + body + 1) ⟨true, progress.constructors⟩ (cs.drop (body + 1)))
  | none => carry line column progress literal cs

/-- Read a line that continues a statement. -/
def resume (line column : Nat) (pending : Suspended) (cs : List Char) : Reading :=
  match pending.literal with
  | some literal => resumeLiteral line column pending.progress literal cs
  | none => readRest line column pending.progress cs

/-- Whether a line takes no part in the code: it is blank, or a comment stands
first. -/
def isSilent (cs : List Char) : Bool :=
  (Text.trim cs).head?.all (· == '!')

/-- Read a line, given what the lines before it left open.  Blank lines and
comment lines may stand between a line and its continuation. -/
def read (line : Nat) (pending : Option Suspended) (cs : List Char) : Reading :=
  let text := Text.trim cs
  let body := cs.dropWhile Text.isGap
  let column := Lexeme.leading Text.isGap cs + 1
  if text = [] then
    ([], .unchanged pending)
  else if text.head? = some '!' then
    ([Token.onLine .comment line column body], .unchanged pending)
  else
    match pending, body with
    | some rest, '&' :: after =>
        emit (Token.onLine .continuation line column ['&'])
          (resume line (column + 1) rest after)
    | some rest, _ => resume line column rest body
    | none, _ =>
        if text.head? = some '#' then ([Token.onLine .directive line column body], .complete)
        else readRest line column .fresh body

end Line

end FortranStyle
