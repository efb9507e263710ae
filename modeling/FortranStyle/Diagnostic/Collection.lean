import FortranStyle.Diagnostic
import FortranStyle.Table
import FortranStyle.Text.Order

/-!
# Collections of diagnostics

A collection takes a finding only if it holds none with the same rule, file,
place and message.  Every view of a collection is in the order of findings, so it
does not depend on the order in which different files came in.
-/

namespace FortranStyle

/-- Different findings, in the order in which they came in. -/
structure Collection where
  entries : List Diagnostic
deriving DecidableEq, Repr

namespace Collection

/-- The collection without findings. -/
def empty : Collection :=
  ⟨[]⟩

/-- Whether a finding says what an entry says already. -/
def holds (collection : Collection) (diagnostic : Diagnostic) : Bool :=
  collection.entries.any (·.sameKey diagnostic)

/-- Add a finding unless the collection holds it already. -/
def add (collection : Collection) (diagnostic : Diagnostic) : Collection :=
  if collection.holds diagnostic then collection
  else ⟨collection.entries ++ [diagnostic]⟩

/-- Add findings one after the other. -/
def extend (collection : Collection) (diagnostics : List Diagnostic) : Collection :=
  diagnostics.foldl add collection

/-- Add a finding unless the collection holds it already, and tell whether it was
new. -/
def insert (collection : Collection) (diagnostic : Diagnostic) : Collection × Bool :=
  (collection.add diagnostic, !collection.holds diagnostic)

/-- Add findings one after the other, and tell how many were new. -/
def insertAll (collection : Collection) : List Diagnostic → Collection × Nat
  | [] => (collection, 0)
  | diagnostic :: rest =>
      let (collection, isNew) := collection.insert diagnostic
      let (collection, added) := collection.insertAll rest
      (collection, if isNew then added + 1 else added)

/-- The number of findings. -/
def size (collection : Collection) : Nat :=
  collection.entries.length

/-- The findings in order. -/
def diagnostics (collection : Collection) : List Diagnostic :=
  Diagnostic.sort collection.entries

/-- The number of findings of a severity. -/
def countSeverity (collection : Collection) (severity : Severity) : Nat :=
  collection.diagnostics.countP (·.severity == severity)

/-- The names of the rules with findings, in order. -/
def rules (collection : Collection) : List String :=
  Text.sortedSet (collection.diagnostics.map (·.rule))

/-- The number of findings of each rule. -/
def countByRule (collection : Collection) : List (String × Nat) :=
  collection.rules.map fun rule => (rule, collection.diagnostics.countP (·.rule == rule))

/-- Put a finding behind those of its file.  A file comes in behind all others. -/
def fileAway : List (String × List Diagnostic) → Diagnostic → List (String × List Diagnostic)
  | [], diagnostic => [(diagnostic.file, [diagnostic])]
  | (file, found) :: rest, diagnostic =>
      if file = diagnostic.file then (file, found ++ [diagnostic]) :: rest
      else (file, found) :: fileAway rest diagnostic

/-- The findings of each file, in the order of the first ones. -/
def byFile (collection : Collection) : List (String × List Diagnostic) :=
  collection.diagnostics.foldl fileAway []

/-- Whether some finding makes the run fail. -/
def isBlocking (collection : Collection) : Bool :=
  collection.diagnostics.any (·.isBlocking)

/-- The number of findings of a rule with a severity. -/
def countRuleSeverity (collection : Collection) (rule : String) (severity : Severity) : Nat :=
  collection.diagnostics.countP fun diagnostic =>
    diagnostic.rule == rule && diagnostic.severity == severity

/-- The errors and warnings of each rule as a table.  A severity that is neither
has no column: the first such severity is the error. -/
def summary (collection : Collection) : Except Severity Table :=
  match collection.diagnostics.find? fun diagnostic =>
      diagnostic.severity != .error && diagnostic.severity != .warning with
  | some diagnostic => .error diagnostic.severity
  | none =>
      .ok
        { columns := [⟨"Rule", .left⟩, ⟨"Error", .centre⟩, ⟨"Warning", .centre⟩]
          rows := collection.rules.map fun rule =>
            [rule, toString (collection.countRuleSeverity rule .error),
              toString (collection.countRuleSeverity rule .warning)] }

end Collection

end FortranStyle
