import FortranStyle.FileTree.Read
import FortranStyle.Report
import FortranStyle.Rule.Check

/-!
# Checking files

A checker goes through files one by one.  It remembers what became of each and
collects the findings.  A file that cannot be read is a finding itself and does not
keep the others from being checked; so is one whose path cannot be used at all.
Checking can be cancelled, and goes on when the cancellation is taken back.
-/

namespace FortranStyle

/-- What became of a file. -/
inductive Outcome
  | checked
  | unreadable
  /-- Checking was cancelled before. -/
  | skipped
  /-- The path cannot be used. -/
  | failed
deriving DecidableEq, Repr

/-- How a run ends. -/
inductive ExitStatus
  | success
  | blocked
  /-- No file was checked. -/
  | fatal
deriving DecidableEq, Repr

/-- The number that a run ends with. -/
def ExitStatus.code : ExitStatus → Nat
  | success => 0
  | blocked => 1
  | fatal => 2

/-- Why files cannot be checked. -/
inductive WorkersError
  /-- Nobody is there to check them. -/
  | notPositive
  /-- It is not said how many may be checked at once. -/
  | missing
deriving DecidableEq, Repr

/-- The text shown when files cannot be checked. -/
def WorkersError.message : WorkersError → String
  | notPositive => "max_workers must be greater than 0"
  | missing => "'<=' not supported between instances of 'list' and 'int'"

/-- A checker and what it did so far. -/
structure Checker where
  settings : Settings
  /-- How many files may be checked at once.  The findings do not depend on it. -/
  workers : Int
  isCancelled : Bool
  collection : Collection
  /-- The files so far and what became of them. -/
  outcomes : List (String × Outcome)

namespace Checker

/-- A checker that has done nothing yet. -/
def start (settings : Settings) (workers : Int) : Checker :=
  ⟨settings, workers, false, .empty, []⟩

/-! ## Single files -/

/-- A finding about a file as a whole, unless its rule is off. -/
def fileFinding (settings : Settings) (rule : Rule) (path message : String) : List Diagnostic :=
  if settings.isEnabled rule then
    [(rule.diagnostic path 0 0 message).withSeverity (settings.severity rule)]
  else
    []

/-- The rule, the outcome and the message for a file that cannot be read. -/
def readFailure (path : String) (error : ReadError) : Rule × Outcome × String :=
  match error with
  | .nullInPath =>
      (.unexpectedError, .failed, s!"Checking stopped unexpectedly: ValueError('{error.reason}')")
  | _ => (.readError, .unreadable, error.message path)

/-- What becomes of a file, and what is found in it. -/
def examine (settings : Settings) (tree : FileTree) (path : String) : Outcome × List Diagnostic :=
  match tree.readLines path with
  | .ok lines => (.checked, checkLines path lines settings)
  | .error error =>
      let (rule, outcome, message) := readFailure path error
      (outcome, fileFinding settings rule path message)

/-- Check a file.  Its findings are not collected. -/
def check (checker : Checker) (tree : FileTree) (path : String) : Checker × List Diagnostic :=
  let (outcome, found) :=
    if checker.isCancelled then (.skipped, []) else examine checker.settings tree path
  ({ checker with outcomes := checker.outcomes ++ [(path, outcome)] }, found)

/-- Check a file and collect its findings. -/
def checkAndCollect (tree : FileTree) (checker : Checker) (path : String) : Checker :=
  let (checker, found) := checker.check tree path
  { checker with collection := checker.collection.extend found }

/-- Check files and collect what is found. -/
def checkFiles (checker : Checker) (tree : FileTree) (paths : List String) :
    Except WorkersError Checker :=
  if checker.workers ≤ 0 then .error .notPositive
  else .ok (paths.foldl (checkAndCollect tree) checker)

/-! ## Results -/

/-- The files that came to an outcome. -/
def filesWith (checker : Checker) (outcome : Outcome) : List String :=
  (checker.outcomes.filter (·.2 == outcome)).map (·.1)

/-- The files that were checked. -/
def checked (checker : Checker) : List String :=
  checker.filesWith .checked

/-- The files that could not be read. -/
def unreadable (checker : Checker) : List String :=
  checker.filesWith .unreadable

/-- The files that were left out after a cancellation. -/
def skipped (checker : Checker) : List String :=
  checker.filesWith .skipped

/-- The files whose paths cannot be used. -/
def failed (checker : Checker) : List String :=
  checker.filesWith .failed

/-- How the run ends so far. -/
def exitStatus (checker : Checker) : ExitStatus :=
  if checker.checked.isEmpty then .fatal
  else if checker.collection.isBlocking then .blocked
  else .success

/-- The report on all that was collected. -/
def report (checker : Checker) (format : Report.Format) (volume : Int) : String :=
  Report.render checker.collection checker.checked.length format volume

end Checker

end FortranStyle
