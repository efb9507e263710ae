/-!
# Tables in plain text

A table has a ruled header and a rule at its end.  A column is as wide as its
longest cell; one blank stands on either side of it.
-/

namespace FortranStyle

/-- Where the text of a cell stands in its column. -/
inductive Alignment
  | left
  | centre
deriving DecidableEq, Repr

/-- The header of a column and the alignment of all its cells. -/
structure Column where
  header : String
  alignment : Alignment
deriving DecidableEq, Repr

/-- A table as its columns and the cells of its rows. -/
structure Table where
  columns : List Column
  rows : List (List String)
deriving DecidableEq, Repr

/-- A number of copies of a character. -/
def repeated (count : Nat) (c : Char) : String :=
  String.ofList (List.replicate count c)

namespace Alignment

/-- The number of blanks on the left of a cell, out of `padding`.  When a
centred text cannot stand in the middle, the blank left over goes to the left in
a column of odd width and to the right in one of even width. -/
def leftPadding (alignment : Alignment) (width padding : Nat) : Nat :=
  match alignment with
  | left => 0
  | centre => padding / 2 + (padding % 2) * (width % 2)

/-- A text with blanks on its sides, in a column of the given width. -/
def pad (alignment : Alignment) (width : Nat) (text : String) : String :=
  let padding := width - text.length
  let before := alignment.leftPadding width padding
  repeated before ' ' ++ text ++ repeated (padding - before) ' '

end Alignment

namespace Table

/-- The width of the column at an index. -/
def width (table : Table) (index : Nat) (column : Column) : Nat :=
  table.rows.foldl (fun widest row => max widest (row.getD index "").length) column.header.length

/-- The widths of the columns. -/
def widths (table : Table) : List Nat :=
  table.columns.mapIdx fun index column => table.width index column

/-- A rule across all columns. -/
def rule (table : Table) : String :=
  "+" ++ String.join (table.widths.map fun width => repeated (width + 2) '-' ++ "+")

/-- One line of cells. -/
def line (table : Table) (cells : List String) : String :=
  "|" ++ String.join ((table.columns.zip (table.widths.zip cells)).map
    fun (column, width, cell) => " " ++ column.alignment.pad width cell ++ " |")

/-- The text of a table, without a line end of its own. -/
def render (table : Table) : String :=
  "\n".intercalate
    ([table.rule, table.line (table.columns.map (·.header)), table.rule] ++
      table.rows.map table.line ++ [table.rule])

end Table

end FortranStyle
