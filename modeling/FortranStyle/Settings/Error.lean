/-!
# Settings that cannot be used

No file is checked with settings that are in error.  The text of the message
follows from the cause alone.
-/

namespace FortranStyle

/-- Why settings cannot be used. -/
inductive SettingsError
  | notMapping
  | unknownSections (names : List String)
  | optionsNotMapping
  | unknownOption (name : String)
  /-- An option has a value of another kind than the one it needs. -/
  | wrongOption (name kind shown : String)
  | rulesNotListed
  /-- The settings of a rule are neither a mapping nor a truth value. -/
  | notSetting (rule : String)
  /-- An entry of the list of rules is no mapping or names no rule. -/
  | notEntry (shown : String)
  | unknownRule (rule : String)
  | unknownKeys (rule : String) (names : List String)
  | enabledNotBool (rule : String)
  | unknownSeverity (rule severity : String)
  | conflict (rule : String)
  /-- A rule to disable is not known. -/
  | unknownDisabled (rule : String)
  /-- The name of a rule to disable is missing. -/
  | missingDisabled
  | unreadable (path reason : String)
  /-- The text of the file is no YAML, and the reader may say why. -/
  | notYaml (path : String) (said : Option String)
  /-- The path holds a null character, so no file can have it. -/
  | nullInPath
  /-- The unknown keys cannot be listed, because this kind of key is no text. -/
  | unlistable (kind : String)
  /-- The bytes of the file are no text. -/
  | undecodable (reason : String)
  /-- A number or a date in a settings file stands for no value. -/
  | noSuchValue (reason : String)
deriving DecidableEq, Repr

namespace SettingsError

/-- Names with commas between them. -/
def listed (names : List String) : String :=
  ", ".intercalate names

/-- The text shown for a cause. -/
def message : SettingsError → String
  | notMapping =>
      "The configuration should be a mapping with 'rules' and/or 'options' keys"
  | unknownSections names => s!"Unknown configuration section(s): {listed names}"
  | optionsNotMapping => "The 'options' section should be a mapping"
  | unknownOption name => s!"Unknown option '{name}'"
  | wrongOption name kind shown => s!"Option '{name}' should be a {kind}, got {shown}"
  | rulesNotListed => "The 'rules' section should be a mapping or a list of entries"
  | notSetting rule => s!"Settings for rule '{rule}' should be a mapping or true/false"
  | notEntry shown => s!"Rule entry {shown} should be a mapping with a 'rule' key"
  | unknownRule rule => s!"Unknown rule id '{rule}'"
  | unknownKeys rule names => s!"Unknown setting(s) for rule '{rule}': {listed names}"
  | enabledNotBool rule => s!"'enabled' for rule '{rule}' should be true or false"
  | unknownSeverity rule severity =>
      s!"Invalid severity '{severity}' for rule '{rule}', expected one of error, warning"
  | conflict rule => s!"Conflicting settings given for rule '{rule}'"
  | unknownDisabled rule => s!"Unknown rule id '{rule}' given to disable"
  | missingDisabled => "'list' object has no attribute 'upper'"
  | unreadable path reason => s!"Unable to read configuration file {path}: {reason}"
  | notYaml path said =>
      s!"Configuration file {path} is not valid YAML" ++ (said.map (": " ++ ·)).getD ""
  | nullInPath => "embedded null byte"
  | unlistable kind => s!"sequence item 0: expected str instance, {kind} found"
  | undecodable reason => reason
  | noSuchValue reason => reason

/-- The rule that a cause is about, or the empty text. -/
def rule : SettingsError → String
  | notSetting rule => rule
  | unknownRule rule => rule
  | unknownKeys rule _ => rule
  | enabledNotBool rule => rule
  | unknownSeverity rule _ => rule
  | conflict rule => rule
  | unknownDisabled rule => rule
  | _ => ""

/-- Whether the settings were understood well enough to say what is wrong with
them. -/
def isExplained : SettingsError → Bool
  | missingDisabled | nullInPath | unlistable _ | undecodable _ | noSuchValue _ => false
  | _ => true

end SettingsError

end FortranStyle
