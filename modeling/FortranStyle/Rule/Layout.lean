import FortranStyle.Rule.Finding
import FortranStyle.Settings
import FortranStyle.Source

/-!
# Rules on lines

The length of lines, tabs, blanks at the end, and indentation.
-/

namespace FortranStyle.Rule

/-- The findings of a check that looks at the lines one by one, numbered from
one. -/
def checkLines (source : Source) (check : List Char → Option (Nat × String)) : List Finding :=
  (source.lines.mapIdx fun index line =>
    (check line.toList).map fun (column, message) => Finding.mk (index + 1) column message)
    |>.filterMap id

/-- A line longer than the maximum, reported once at the first column past
it. -/
def checkLineLength (source : Source) (options : Options) : List Finding :=
  let limit := options.maxLineLength
  checkLines source fun line =>
    if line.length > limit then
      some (limit + 1, s!"Line is {line.length} characters long; the maximum is {limit}")
    else
      none

/-- The first tab of a line. -/
def checkTabs (source : Source) : List Finding :=
  checkLines source fun line =>
    (line.findIdx? (· == '\t')).map fun index =>
      (index + 1, "Tab character found; indent with spaces")

/-- Blank characters at the end of a line. -/
def checkTrailingBlanks (source : Source) : List Finding :=
  checkLines source fun line =>
    let text := Text.trimEnd line
    if text = line then none else some (text.length + 1, "Line ends in whitespace")

/-- A line on which a statement starts and that is not indented by two spaces for
each block around it.  Lines with a tab in their indentation are left to the rule
on tabs. -/
def checkIndent (source : Source) : List Finding :=
  ((source.outline.lineDepths.zip source.tokenized.indents).mapIdx fun index (depth?, indent?) =>
    match depth?, indent? with
    | some depth, some indent =>
        if indent ≠ 2 * depth then
          some (Finding.mk (index + 1) (indent + 1)
            (s!"Indented by {indent} spaces; expected {2 * depth} " ++
              s!"at nesting depth {depth}"))
        else
          none
    | _, _ => none)
    |>.filterMap id

end FortranStyle.Rule
