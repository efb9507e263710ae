/-!
# Diagnostics

A diagnostic is one finding at one place of one file.  Diagnostics are shown in
the order of file, line, column and rule.
-/

namespace FortranStyle

/-- How much a finding weighs. -/
structure Severity where
  name : String
deriving DecidableEq, Repr

/-- A finding that makes a run fail. -/
def Severity.error : Severity :=
  ⟨"error"⟩

/-- A finding that is only shown. -/
def Severity.warning : Severity :=
  ⟨"warning"⟩

/-- One finding at one place of one file. -/
structure Diagnostic where
  rule : String
  severity : Severity
  file : String
  line : Int
  column : Int
  message : String
  /-- The structure of the file could only be recovered in part. -/
  isPartial : Bool
deriving DecidableEq, Repr

namespace Diagnostic

/-- What is added to the message of a finding in a file whose structure could
only be recovered in part. -/
def partialMark : String :=
  " (partial scan)"

/-- Whether the finding makes a run fail. -/
def isBlocking (diagnostic : Diagnostic) : Bool :=
  diagnostic.severity == .error

/-- Mark a finding as one of a partial scan; once is enough. -/
def asPartial (diagnostic : Diagnostic) : Diagnostic :=
  if diagnostic.isPartial then diagnostic
  else { diagnostic with isPartial := true, message := diagnostic.message ++ partialMark }

/-- Give a finding another severity. -/
def withSeverity (diagnostic : Diagnostic) (severity : Severity) : Diagnostic :=
  { diagnostic with severity }

/-- One line of text for a finding. -/
def format (diagnostic : Diagnostic) : String :=
  s!"{diagnostic.file}:{diagnostic.line}:{diagnostic.column}: {diagnostic.severity.name} " ++
    s!"[{diagnostic.rule}] {diagnostic.message}"

/-- Whether two findings say the same about the same place; their severity does
not count. -/
def sameKey (first second : Diagnostic) : Bool :=
  first.line == second.line && first.column == second.column && first.rule == second.rule &&
    first.file == second.file && first.message == second.message

/-- The order of findings: by file, line, column and rule. -/
def le (first second : Diagnostic) : Bool :=
  if first.file ≠ second.file then first.file < second.file
  else if first.line ≠ second.line then first.line < second.line
  else if first.column ≠ second.column then first.column < second.column
  else first.rule ≤ second.rule

/-- Findings in order; those that are alike keep the order they came in. -/
def sort (diagnostics : List Diagnostic) : List Diagnostic :=
  diagnostics.mergeSort le

end Diagnostic

end FortranStyle
