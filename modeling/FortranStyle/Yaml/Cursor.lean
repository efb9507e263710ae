/-!
# Places in a YAML text

A cursor is the rest of a text with the line and the column where it starts, both
counted from zero.  The text has no carriage returns: its line ends are unified
before.
-/

namespace FortranStyle.Yaml

/-- A character that ends a line. -/
def isBreak (c : Char) : Bool :=
  c == '\n' || c == '\x85' || c == '\u2028' || c == '\u2029'

/-- A space, a tab or the end of a line. -/
def isSpace (c : Char) : Bool :=
  c == ' ' || c == '\t' || isBreak c

/-- Whether nothing comes next, or a space, or one of some characters. -/
def endsWord (rest : List Char) (more : List Char) : Bool :=
  rest.head?.all fun c => isSpace c || more.contains c

/-- A character that a YAML text may hold. -/
def isAllowed (c : Char) : Bool :=
  let n := c.toNat
  n == 0x09 || n == 0x0a || n == 0x0d || (0x20 ≤ n && n ≤ 0x7e) || n == 0x85 ||
    (0xa0 ≤ n && n ≤ 0xfffd) || 0x10000 ≤ n

/-- The rest of a text and its place. -/
structure Cursor where
  rest : List Char
  index : Nat
  line : Nat
  column : Nat
deriving DecidableEq, Repr

namespace Cursor

/-- The start of a text. -/
def start (text : List Char) : Cursor :=
  ⟨text, 0, 0, 0⟩

/-- The place behind the next character.  A byte order mark takes no column. -/
def next (cursor : Cursor) : Cursor :=
  match cursor.rest with
  | [] => cursor
  | c :: rest =>
      if isBreak c then ⟨rest, cursor.index + 1, cursor.line + 1, 0⟩
      else if c = '\ufeff' then ⟨rest, cursor.index + 1, cursor.line, cursor.column⟩
      else ⟨rest, cursor.index + 1, cursor.line, cursor.column + 1⟩

/-- The place behind some characters. -/
def skip : (count : Nat) → Cursor → Cursor
  | 0, cursor => cursor
  | count + 1, cursor => skip count cursor.next

/-- The next character. -/
def peek? (cursor : Cursor) : Option Char :=
  cursor.rest.head?

/-- Whether a character comes next. -/
def isAt (cursor : Cursor) (c : Char) : Bool :=
  cursor.peek? == some c

/-- The next characters of a class, and the place behind them. -/
def span (p : Char → Bool) (cursor : Cursor) : List Char × Cursor :=
  let found := cursor.rest.takeWhile p
  (found, cursor.skip found.length)

/-- The place behind the next characters of a class. -/
def skipWhile (p : Char → Bool) (cursor : Cursor) : Cursor :=
  (cursor.span p).2

/-- The end of a line, if one comes next: what it stands for in a text, and the
place behind it. -/
def lineBreak? (cursor : Cursor) : Option (Char × Cursor) :=
  match cursor.rest with
  | c :: _ =>
      if c = '\n' ∨ c = '\x85' then some ('\n', cursor.next)
      else if isBreak c then some (c, cursor.next)
      else none
  | [] => none

/-- Whether a line of three equal marks, `---` or `...`, starts here. -/
def isAtMarker (cursor : Cursor) (mark : Char) : Bool :=
  cursor.rest.take 3 == [mark, mark, mark] && endsWord (cursor.rest.drop 3) []

/-- Whether a marker between documents starts here. -/
def isAtSeparator (cursor : Cursor) : Bool :=
  cursor.isAtMarker '-' || cursor.isAtMarker '.'

end Cursor

end FortranStyle.Yaml
