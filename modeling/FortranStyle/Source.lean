import FortranStyle.Program.Scan

/-!
# Sources

What the rules look at: the lines, the tokens and the outline of one file.
-/

namespace FortranStyle

/-- One file, read, tokenized and scanned. -/
structure Source where
  path : String
  tokenized : Tokenized
  outline : Outline

namespace Source

/-- Read the lines of a file. -/
def ofLines (path : String) (lines : List String) : Source :=
  let tokenized := Tokenized.ofLines lines
  ⟨path, tokenized, .ofTokenized tokenized⟩

/-- The lines of a file, without line ends. -/
def lines (source : Source) : List String :=
  source.tokenized.lines

end Source

end FortranStyle
