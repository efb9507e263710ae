import FortranStyle.Token.Line

/-!
# Sources as tokens

The tokens of all lines of a source, with the lines that could not be read.  A
statement is the run of code tokens up to the next end-of-line token, so a
statement that goes over several lines is one run, and every token still tells
the line it stands on.
-/

namespace FortranStyle

/-- What reading the lines of a source gives. -/
structure Tokenized where
  /-- The lines, without their line ends. -/
  lines : List String
  tokens : List Token
  /-- The numbers of the lines that continue an earlier one. -/
  continuedLines : List Nat
  errors : List LexError
deriving DecidableEq, Repr

namespace Tokenized

/-- The tokens and errors of some successive lines. -/
structure Part where
  tokens : List Token
  continuedLines : List Nat
  errors : List LexError
deriving DecidableEq, Repr

/-- The parts of adjoining lines, one after the other. -/
def Part.append (first second : Part) : Part :=
  ⟨first.tokens ++ second.tokens, first.continuedLines ++ second.continuedLines,
    first.errors ++ second.errors⟩

instance : Append Part :=
  ⟨Part.append⟩

/-- The end of a source: a continuation marker that nothing follows is an error
at the marker, and its statement ends behind it. -/
def danglingPart : Option Suspended → Part
  | none => ⟨[], [], []⟩
  | some rest =>
      ⟨rest.progress.close '\n' rest.line (rest.column + 1), [],
        [⟨.nothingToContinue, rest.line, rest.column⟩]⟩

/-- The part of one line, given how it was read and whether something was
pending before it. -/
def linePart (line : Nat) (pending : Option Suspended) (cs : List Char) : Part :=
  let (tokens, ending) := Line.read line pending cs
  ⟨tokens, if pending.isSome && !Line.isSilent cs then [line] else [], ending.errors⟩

/-- Read lines from the given line number on. -/
def readLines (line : Nat) (pending : Option Suspended) : List (List Char) → Part
  | [] => danglingPart pending
  | cs :: rest =>
      linePart line pending cs ++ readLines (line + 1) (Line.read line pending cs).2.pending rest

/-- Read the lines of a source.  Line ends that are still on the lines are
dropped. -/
def ofLines (source : List String) : Tokenized :=
  let lines := source.map fun line => Text.dropEndWhile Text.isLineEnd line.toList
  let part := readLines 1 none lines
  ⟨lines.map String.ofList, part.tokens, part.continuedLines, part.errors⟩

/-- The number of characters of each line. -/
def lineLengths (source : Tokenized) : List Nat :=
  source.lines.map (·.length)

/-- The indentation of each line, where it is not ambiguous. -/
def indents (source : Tokenized) : List (Option Nat) :=
  source.lines.map fun line => Text.indentWidth? line.toList

/-- Cut a run of tokens at its end-of-line tokens. -/
def splitAtEnds : List Token → List (List Token)
  | [] => [[]]
  | token :: rest =>
      if token.kind = .endOfLine then [] :: splitAtEnds rest
      else (splitAtEnds rest).modifyHead (token :: ·)

/-- The statements in a run of tokens. -/
def statementsOf (tokens : List Token) : List (List Token) :=
  (splitAtEnds (tokens.filter fun token => !token.kind.isSilent)).filter (!·.isEmpty)

/-- The statements of a source. -/
def statements (source : Tokenized) : List (List Token) :=
  statementsOf source.tokens

/-- The comments of a source. -/
def comments (source : Tokenized) : List Token :=
  source.tokens.filter (·.kind == .comment)

end Tokenized

end FortranStyle
