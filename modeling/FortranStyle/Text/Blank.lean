/-!
# Blank characters

Two notions of blank meet in a source line.  Between tokens only the space and
the tab separate; at the ends of a line, and where a line is asked whether it
is empty, every Unicode white space character counts.
-/

namespace FortranStyle.Text

/-- A Unicode white space character, as it is removed from the ends of a
text. -/
def isBlank (c : Char) : Bool :=
  let n := c.toNat
  (0x09 ≤ n && n ≤ 0x0d) || (0x1c ≤ n && n ≤ 0x20) || n == 0x85 || n == 0xa0 ||
    n == 0x1680 || (0x2000 ≤ n && n ≤ 0x200a) || n == 0x2028 || n == 0x2029 ||
    n == 0x202f || n == 0x205f || n == 0x3000

/-- A space or a tab: what may stand between two tokens. -/
def isGap (c : Char) : Bool :=
  c == ' ' || c == '\t'

/-- A carriage return or a line feed. -/
def isLineEnd (c : Char) : Bool :=
  c == '\r' || c == '\n'

/-- A space or a tab is blank. -/
theorem isBlank_of_isGap {c : Char} (gap : isGap c = true) : isBlank c = true := by
  simp only [isGap, Bool.or_eq_true, beq_iff_eq] at gap
  rcases gap with rfl | rfl <;> decide

/-- Remove the longest run of characters of a class from the end. -/
def dropEndWhile (p : Char → Bool) (cs : List Char) : List Char :=
  (cs.reverse.dropWhile p).reverse

/-- Remove blank characters from the end. -/
def trimEnd (cs : List Char) : List Char :=
  dropEndWhile isBlank cs

/-- Remove blank characters from both ends. -/
def trim (cs : List Char) : List Char :=
  trimEnd (cs.dropWhile isBlank)

/-- The number of leading spaces of a line, or nothing when a tab follows
them: the width of the indentation is ambiguous then. -/
def indentWidth? : List Char → Option Nat
  | [] => some 0
  | c :: rest =>
      if c = ' ' then (indentWidth? rest).map (· + 1)
      else if c = '\t' then none
      else some 0

/-- What remains after removing characters from the end is a prefix. -/
theorem dropEndWhile_prefix (p : Char → Bool) (cs : List Char) :
    dropEndWhile p cs <+: cs := by
  have suffix := List.dropWhile_suffix (l := cs.reverse) p
  simpa [dropEndWhile] using List.reverse_prefix.mpr suffix

end FortranStyle.Text
