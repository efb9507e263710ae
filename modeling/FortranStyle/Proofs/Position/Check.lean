import FortranStyle.Checker
import FortranStyle.Proofs.Position.Line
import FortranStyle.Proofs.Position.Rule
import FortranStyle.Proofs.Position.Scan
import FortranStyle.Proofs.Sorting.Setting

/-!
# Checking by position

The readers by position, put together to a check of a whole file.  A checker has an
outcome for a check that stops.  No lines of a file lead to it: a check by position
finds what the library finds.
-/

namespace FortranStyle.Position

/-! ## Lines -/

/-- Read lines from the given line number on. -/
def readLines (line : Nat) (pending : Option Suspended) :
    List (List Char) → Attempt Tokenized.Part
  | [] => pure (Tokenized.danglingPart pending)
  | cs :: rest => do
      let (tokens, ending) ← readLine line pending cs
      let later ← readLines (line + 1) ending.pending rest
      let continued := if pending.isSome && !Line.isSilent cs then [line] else []
      pure (⟨tokens, continued, ending.errors⟩ ++ later)

theorem readLines_eq (line : Nat) (pending : Option Suspended) (lines : List (List Char)) :
    readLines line pending lines = some (Tokenized.readLines line pending lines) := by
  induction lines generalizing line pending with
  | nil => rfl
  | cons cs rest ih =>
    rw [readLines, readLine_eq]
    simp only [Option.bind_eq_bind, Option.bind_some, ih]
    rfl

/-- Read the lines of a source. -/
def tokenize (source : List String) : Attempt Tokenized := do
  let lines := source.map fun line => Text.dropEndWhile Text.isLineEnd line.toList
  let part ← readLines 1 none lines
  pure ⟨lines.map String.ofList, part.tokens, part.continuedLines, part.errors⟩

theorem tokenize_eq (lines : List String) : tokenize lines = some (.ofLines lines) := by
  rw [tokenize, readLines_eq]
  rfl

/-! ## Sources -/

/-- Read the lines of a file. -/
def sourceOf (path : String) (lines : List String) : Attempt Source := do
  let tokenized ← tokenize lines
  let outline ← outlineOf tokenized.lines.length tokenized.statements
  pure ⟨path, tokenized, outline⟩

/-- A statement has a first token. -/
theorem ne_nil_of_mem_statements {tokenized : Tokenized} :
    ∀ statement ∈ tokenized.statements, statement ≠ [] := by
  intro statement within
  have kept := (List.mem_filter.mp within).2
  simpa using kept

theorem sourceOf_eq (path : String) (lines : List String) :
    sourceOf path lines = some (.ofLines path lines) := by
  simp only [sourceOf, tokenize_eq, Option.bind_eq_bind, Option.bind_some,
    outlineOf_eq _ ne_nil_of_mem_statements]
  rfl

/-- As many lines have a depth, known or not, as have an indentation. -/
theorem length_lineDepths_ofLines (path : String) (lines : List String) :
    (Source.ofLines path lines).outline.lineDepths.length =
      (Source.ofLines path lines).tokenized.indents.length := by
  simp [Source.ofLines, Outline.ofTokenized, Outline.ofStatements, ScanState.lineDepths,
    Tokenized.indents]

/-! ## Rules -/

/-- The diagnostics of a rule as they are shown. -/
def judge (source : Source) (settings : Settings) (rule : Rule) : Attempt (List Diagnostic) :=
  if settings.isEnabled rule then do
    let found ← findings source settings.options rule
    pure (found.map fun finding =>
      let diagnostic := (finding.diagnostic rule source.path).withSeverity (settings.severity rule)
      if rule.needsStructure && source.outline.isPartial then diagnostic.asPartial else diagnostic)
  else
    pure []

/-- The diagnostics for the lines of a file. -/
def checkLines (path : String) (lines : List String) (settings : Settings) :
    Attempt (List Diagnostic) := do
  let source ← sourceOf path lines
  let found ← collect (judge source settings) Rule.all
  pure (Diagnostic.sort found)

/-- Whatever the lines say, their check comes to an end with diagnostics. -/
theorem checkLines_eq (path : String) (lines : List String) (settings : Settings) :
    checkLines path lines settings = some (FortranStyle.checkLines path lines settings) := by
  have judged (rule : Rule) :
      judge (.ofLines path lines) settings rule =
        some ((Source.ofLines path lines).judge settings rule) := by
    rw [judge, Source.judge, Rule.check]
    split
    · rw [findings_eq (length_lineDepths_ofLines path lines).le ne_nil_of_mem_statements,
        List.map_map]
      rfl
    · rfl
  rw [checkLines, sourceOf_eq]
  simp only [Option.bind_eq_bind, Option.bind_some, collect_eq fun rule _ => judged rule]
  rfl

/-! ## Files -/

open Checker (fileFinding readFailure)

/-- What becomes of a file, and what is found in it.  A check that stops is a finding
about the file as a whole. -/
def examine (settings : Settings) (tree : FileTree) (path : String) :
    Outcome × List Diagnostic :=
  match tree.readLines path with
  | .ok lines =>
      match checkLines path lines settings with
      | some found => (.checked, found)
      | none =>
          (.failed, fileFinding settings .unexpectedError path "Checking stopped unexpectedly")
  | .error error =>
      let (rule, outcome, message) := readFailure path error
      (outcome, fileFinding settings rule path message)

theorem examine_eq (settings : Settings) (tree : FileTree) (path : String) :
    examine settings tree path = Checker.examine settings tree path := by
  rw [examine, Checker.examine]
  cases tree.readLines path with
  | ok lines => simp only [checkLines_eq]
  | error error => rfl

/-- Check a file.  Its findings are not collected. -/
def check (checker : Checker) (tree : FileTree) (path : String) : Checker × List Diagnostic :=
  let (outcome, found) :=
    if checker.isCancelled then (.skipped, []) else examine checker.settings tree path
  ({ checker with outcomes := checker.outcomes ++ [(path, outcome)] }, found)

/-- Check a file and collect its findings. -/
def checkAndCollect (tree : FileTree) (checker : Checker) (path : String) : Checker :=
  let (checker, found) := check checker tree path
  { checker with collection := checker.collection.extend found }

theorem checkAndCollect_eq (tree : FileTree) :
    checkAndCollect tree = Checker.checkAndCollect tree := by
  funext checker path
  rw [checkAndCollect, Checker.checkAndCollect, check, Checker.check, examine_eq]

/-! ## Runs -/

/-- The rule of checks that stop finds nothing in a source. -/
theorem rule_ne_unexpectedError {source : Source} {settings : Settings} :
    ∀ diagnostic ∈ source.check settings, diagnostic.rule ≠ Rule.unexpectedError.name := by
  intro diagnostic member same
  obtain ⟨rule, judged⟩ := source.mem_check.mp member
  obtain rfl := Rule.name_injective ((source.of_mem_judge judged).1.symm.trans same)
  rw [source.judge_eq_nil rfl] at judged
  exact List.not_mem_nil judged

variable {tree : FileTree}

/-- A file that can be read is checked. -/
theorem examine_of_readLines (settings : Settings) {path : String} {lines : List String}
    (read : tree.readLines path = .ok lines) :
    examine settings tree path = (.checked, FortranStyle.checkLines path lines settings) := by
  rw [examine_eq, Checker.examine, read]

/-- One file that can be read adds no failure to a checker. -/
theorem failed_checkAndCollect (checker : Checker) {path : String} {lines : List String}
    (read : tree.readLines path = .ok lines) :
    (checkAndCollect tree checker path).failed = checker.failed := by
  rw [checkAndCollect, check, examine_of_readLines checker.settings read]
  cases checker.isCancelled <;> simp [Checker.failed, Checker.filesWith]

/-- No text makes a check stop.  For all lines, a check by position comes to an end with
the diagnostics of the library, and none of them speaks of a check that stopped.  A run
over files that can be read adds no failure to a checker, and is the run of the
library. -/
theorem never_fails (checker : Checker) {paths : List String}
    (readable : ∀ path ∈ paths, ∃ lines, tree.readLines path = .ok lines) :
    (∀ path lines settings,
      checkLines path lines settings = some (FortranStyle.checkLines path lines settings) ∧
        ∀ diagnostic ∈ FortranStyle.checkLines path lines settings,
          diagnostic.rule ≠ Rule.unexpectedError.name) ∧
      (∀ path ∈ paths, (examine checker.settings tree path).1 = .checked) ∧
      (paths.foldl (checkAndCollect tree) checker).failed = checker.failed ∧
      paths.foldl (checkAndCollect tree) checker =
        paths.foldl (Checker.checkAndCollect tree) checker := by
  refine ⟨fun path lines settings => ⟨checkLines_eq path lines settings, rule_ne_unexpectedError⟩,
    fun path within => ?_, ?_, by rw [checkAndCollect_eq]⟩
  · obtain ⟨lines, read⟩ := readable path within
    rw [examine_of_readLines checker.settings read]
  · induction paths generalizing checker with
    | nil => rfl
    | cons path rest ih =>
      rw [List.forall_mem_cons] at readable
      obtain ⟨lines, read⟩ := readable.1
      rw [List.foldl_cons, ih _ readable.2, failed_checkAndCollect checker read]

theorem never_fails_unfinished :
    let tree := FileTree.directory
      [("a.f90", .file [49, 48, 10, 105, 102, 40, 10, 101, 110, 100])]
    (∀ path ∈ ["a.f90"], ∃ lines, tree.readLines path = .ok lines) ∧
      (["a.f90"].foldl (checkAndCollect tree) (.start .default 8)).failed = [] := by
  intro tree
  have readable : ∀ path ∈ ["a.f90"], ∃ lines, tree.readLines path = .ok lines := by
    intro path within
    rw [List.mem_singleton.mp within]
    exact ⟨["10", "if(", "end"], by decide +kernel⟩
  exact ⟨readable, (never_fails (.start .default 8) readable).2.2.1⟩

end FortranStyle.Position
