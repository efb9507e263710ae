import FortranStyle.Rule.Expression
import FortranStyle.Rule.Layout
import FortranStyle.Rule.Structure

/-!
# Checking a source

All rules that are enabled look at a source.  What a rule finds depends on the
source and on the options; whether it is shown, and how much it weighs, depends
on the setting of that rule alone.
-/

namespace FortranStyle

/-- What a rule finds in a source.  The last three rules speak of files that
could not be judged at all. -/
def Rule.findings (source : Source) (options : Options) : Rule → List Finding
  | lineLength => checkLineLength source options
  | tabs => checkTabs source
  | trailingBlanks => checkTrailingBlanks source
  | indentStep => checkIndent source
  | constructorStyle => checkConstructors source
  | sectionOrder => checkSections source
  | literalKind => checkLiterals source
  | implicitNone => checkImplicitNone source
  | intentRequired => checkIntent source
  | sideEffect => checkSideEffects source
  | explicitVisibility => checkVisibility source
  | onlyRequired => checkOnly source options
  | usePlacement => checkUsePlacement source
  | namePrefix => checkNamePrefix source
  | oneUnitPerFile => checkOneUnit source
  | setupContract => checkSetup source options
  | declarationKind => checkDeclarationKind source
  | savedVariable => checkSaved source
  | automaticArray => checkAutomatic source
  | lexError =>
      source.tokenized.errors.map fun error => ⟨error.line, error.column, error.cause.message⟩
  | structuralError =>
      source.outline.errors.map fun error => ⟨error.line, error.column, error.cause.message⟩
  | readError | settingsError | unexpectedError => []

/-- The diagnostics of a rule for a source, with its default severity. -/
def Rule.check (rule : Rule) (source : Source) (options : Options) : List Diagnostic :=
  (rule.findings source options).map (·.diagnostic rule source.path)

namespace Source

/-- The diagnostics of a rule as they are shown: none when the rule is off, with
the severity that is set, and marked when the structure they depend on could only
be recovered in part. -/
def judge (source : Source) (settings : Settings) (rule : Rule) : List Diagnostic :=
  if settings.isEnabled rule then
    (rule.check source settings.options).map fun diagnostic =>
      let diagnostic := diagnostic.withSeverity (settings.severity rule)
      if rule.needsStructure && source.outline.isPartial then diagnostic.asPartial else diagnostic
  else
    []

/-- The diagnostics of all rules for a source, in order. -/
def check (source : Source) (settings : Settings) : List Diagnostic :=
  Diagnostic.sort (Rule.all.flatMap (source.judge settings))

end Source

/-- The diagnostics for the lines of a file. -/
def checkLines (path : String) (lines : List String) (settings : Settings) : List Diagnostic :=
  (Source.ofLines path lines).check settings

end FortranStyle
