import FortranStyle.Text.Quoted

/-!
# Lines that cannot be read

A line that breaks the rules of free-form source gives one error.  The text of
the message follows from the cause alone.
-/

namespace FortranStyle

/-- Why a line cannot be read. -/
inductive LexCause
  /-- No token begins with this character. -/
  | unexpected (c : Char)
  /-- Code follows a continuation marker. -/
  | codeAfterMarker
  /-- A character literal, opened with this quote on this line, neither closes
  nor is carried over to the next line. -/
  | unterminated (quote : Char) (openedOn : Nat)
  /-- The source ends after a continuation marker. -/
  | nothingToContinue
deriving DecidableEq, Repr

/-- The text shown for a cause. -/
def LexCause.message : LexCause → String
  | unexpected c => s!"Unexpected character {Text.quoted c.toString}"
  | codeAfterMarker =>
      "Continuation marker '&' must be the last non-comment character on a line"
  | unterminated quote openedOn =>
      s!"Unterminated character literal (opened with {quote} on line {openedOn})"
  | nothingToContinue => "Continuation marker '&' has no following line to continue onto"

/-- An error in a line and its place. -/
structure LexError where
  cause : LexCause
  line : Nat
  column : Nat
deriving DecidableEq, Repr

end FortranStyle
