/-!
# The lines of a text

Carriage returns, alone or in front of a line feed, count as line feeds.  Lines
end at every character that ends a line or a paragraph, and the last line need not
be ended.
-/

namespace FortranStyle.Text

/-- A character at which a line ends. -/
def isLineBreak (c : Char) : Bool :=
  let n := c.toNat
  (0x0a ≤ n && n ≤ 0x0d) || (0x1c ≤ n && n ≤ 0x1e) || n == 0x85 || n == 0x2028 || n == 0x2029

/-- Write a line feed for every carriage return, and for every carriage return
with the line feed behind it. -/
def unifyLineEnds (cs : List Char) : List Char :=
  (cs.foldr (fun c (found, next) =>
    if c = '\r' then
      (if next = some '\n' then found else '\n' :: found, some c)
    else
      (c :: found, some c)) (([] : List Char), (none : Option Char))).1

/-- Put a character in front of the first line. -/
def consLine (c : Char) : List (List Char) → List (List Char)
  | [] => [[c]]
  | line :: rest => (c :: line) :: rest

/-- The lines of a text without the characters that end them.  There is no line
behind the last line break. -/
def splitLines (cs : List Char) : List (List Char) :=
  cs.foldr (fun c lines => if isLineBreak c then [] :: lines else consLine c lines) []

end FortranStyle.Text
