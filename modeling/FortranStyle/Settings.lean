import FortranStyle.Rule
import FortranStyle.Text.Case

/-!
# Settings

Which rules run and how much their findings weigh, and the names and numbers
that belong to a project.  A rule that is not mentioned runs with its default
severity.
-/

namespace FortranStyle

/-- What is set for one rule. -/
structure RuleSetting where
  enabled : Bool
  severity : Option Severity
deriving DecidableEq, Repr

/-- The names and numbers that belong to a project. -/
structure Options where
  /-- A module that may be used without an ONLY list. -/
  programVariableModule : String
  /-- The module that sets up and cleans up. -/
  setupModule : String
  /-- What that module makes public. -/
  setupProcedures : List String
  /-- More modules that may be used without an ONLY list. -/
  useOnlyExempt : List String
  maxLineLength : Nat
deriving DecidableEq, Repr

/-- The options of a project that says nothing. -/
def Options.default : Options :=
  { programVariableModule := "progvars", setupModule := "setup",
    setupProcedures := ["setup_init", "setup_cleanup"], useOnlyExempt := [],
    maxLineLength := 79 }

/-- Whether a module may be used without an ONLY list. -/
def Options.exemptsFromOnly (options : Options) (moduleName : String) : Bool :=
  ((options.programVariableModule :: options.useOnlyExempt).map Text.lower).contains
    (Text.lower moduleName)

/-- The settings of a run. -/
structure Settings where
  /-- What is set for a rule, if anything is. -/
  rule : Rule → Option RuleSetting
  options : Options

namespace Settings

/-- The settings of a project that says nothing. -/
def default : Settings :=
  ⟨fun _ => none, .default⟩

/-- Whether a rule runs. -/
def isEnabled (settings : Settings) (rule : Rule) : Bool :=
  (settings.rule rule).all (·.enabled)

/-- The severity of a rule's findings. -/
def severity (settings : Settings) (rule : Rule) : Severity :=
  ((settings.rule rule).bind (·.severity)).getD rule.defaultSeverity

/-- Set something for one rule. -/
def set (settings : Settings) (rule : Rule) (setting : RuleSetting) : Settings :=
  { settings with rule := fun other => if other = rule then some setting else settings.rule other }

/-- Turn one rule off.  A severity that was set for it stays. -/
def disableRule (settings : Settings) (rule : Rule) : Settings :=
  settings.set rule ⟨false, (settings.rule rule).bind (·.severity)⟩

/-- The rules for which something is set, by name. -/
def configured (settings : Settings) : List Rule :=
  Rule.sortByName (Rule.all.filter fun rule => (settings.rule rule).isSome)

end Settings

end FortranStyle
