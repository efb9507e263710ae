import FortranStyle.Diagnostic.Collection
import FortranStyle.Json
import FortranStyle.Settings

/-!
# Reports

What is printed at the end of a run: the findings as JSON or as lines of text,
with totals and a summary as the volume grows, and the list of all rules.
-/

namespace FortranStyle.Report

/-- A line across the page for the start of a section. -/
def heavyLine (length : Int) : String :=
  let padding := Int.fmod length 3
  (if padding > 1 then "=" else "") ++
    String.join (List.replicate (Int.fdiv length 3).toNat "-=-") ++
    (if padding > 0 then "=" else "")

/-- A line across the page for the end of a section. -/
def lightLine (length : Int) : String :=
  repeated length.toNat '-'

/-- A diagnostic as a JSON record. -/
def jsonRecord (diagnostic : Diagnostic) : String :=
  Json.record
    [("rule", Json.quote diagnostic.rule), ("file", Json.quote diagnostic.file),
      ("line", toString diagnostic.line), ("column", toString diagnostic.column),
      ("severity", Json.quote diagnostic.severity.name),
      ("message", Json.quote diagnostic.message), ("partial", Json.bool diagnostic.isPartial)]

/-- Diagnostics as JSON. -/
def json (diagnostics : List Diagnostic) : String :=
  Json.list (diagnostics.map jsonRecord)

/-- The form of a report. -/
inductive Format
  | text
  | json
deriving DecidableEq, Repr

/-- Lines with a line end behind each. -/
def unlines (lines : List String) : String :=
  String.join (lines.map (· ++ "\n"))

/-- The lines of a report in text.  Below volume 2 only errors are shown; from
volume 3 on the totals follow; from volume 4 on there are a heading and, if
anything was found, a summary. -/
def textLines (collection : Collection) (checked : Nat) (volume : Int) : List String :=
  let diagnostics := collection.diagnostics
  let heading :=
    if volume ≥ 4 then
      [heavyLine 81, "## Results :" ++ repeated 67 ' ' ++ "##", heavyLine 81]
    else
      []
  let shown := diagnostics.filter fun diagnostic => volume ≥ 2 || diagnostic.isBlocking
  let totals :=
    if volume ≥ 3 then
      [s!"Total files checked: {checked}",
        s!"Errors: {collection.countSeverity .error}  " ++
          s!"Warnings: {collection.countSeverity .warning}"]
    else
      []
  let summary :=
    if volume ≥ 4 && !diagnostics.isEmpty then
      match collection.summary with
      | .ok table => [lightLine 81, table.render]
      | .error _ => [lightLine 81]
    else
      []
  heading ++ shown.map (·.format) ++ totals ++ summary

/-- A report on the findings in a number of checked files. -/
def render (collection : Collection) (checked : Nat) (format : Format) (volume : Int) : String :=
  match format with
  | .json => unlines [json collection.diagnostics]
  | .text => unlines (textLines collection checked volume)

/-- All rules with their settings as a table. -/
def rulesTable (settings : Settings) : Table :=
  { columns := [⟨"Rule", .left⟩, ⟨"Severity", .centre⟩, ⟨"Input", .centre⟩, ⟨"Enabled", .centre⟩,
      ⟨"Description", .left⟩]
    rows := (Rule.sortByName Rule.all).map fun rule =>
      [rule.name, (settings.severity rule).name, rule.representation.name,
        if settings.isEnabled rule then "yes" else "no", rule.title] }

end FortranStyle.Report
