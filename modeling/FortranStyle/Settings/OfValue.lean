import FortranStyle.Settings
import FortranStyle.Settings.Error
import FortranStyle.Settings.Value
import FortranStyle.Text.Order

/-!
# Settings from values

The sections `rules` and `options` of a settings file.  Options are judged before
rules, entries in the order in which they are given, and the first error counts.
-/

namespace FortranStyle.Settings

/-! ## Keys -/

/-- The kind of the first of some keys, numbers being put in order. -/
def firstKind : List Value → String
  | [] => ""
  | key :: rest =>
      let smallest := rest.foldl (fun (found : Value) other =>
        match found.magnitude?, other.magnitude? with
        | some old, some new => if new < old then other else found
        | _, _ => found) key
      smallest.kind

/-- Refuse keys other than the known ones, with an error that lists them. -/
def refuseOthers (known : List String) (entries : List (Value × Value))
    (error : List String → SettingsError) : Except SettingsError Unit :=
  let others := (entries.map (·.1)).filter fun key => !known.any (key.sameKey <| .text ·)
  let names := others.filterMap fun
    | .text name => some name
    | _ => none
  if others.isEmpty then .ok ()
  else if names.length = others.length then .error (error (Text.sortedSet names))
  else .error (.unlistable (firstKind others))

/-! ## Options -/

/-- A text that is not empty. -/
def textOption (name : String) : Value → Except SettingsError String
  | .text value =>
      if value = "" then .error (.wrongOption name "str" (Value.text value).shown) else .ok value
  | value => .error (.wrongOption name "str" value.shown)

/-- A list of texts. -/
def listOption (name : String) (value : Value) : Except SettingsError (List String) :=
  match value with
  | .list items =>
      let texts := items.filterMap fun
        | .text item => some item
        | _ => none
      if texts.length = items.length then .ok texts
      else .error (.wrongOption name "list" value.shown)
  | _ => .error (.wrongOption name "list" value.shown)

/-- A positive whole number. -/
def numberOption (name : String) (value : Value) : Except SettingsError Nat :=
  match value with
  | .int number =>
      if number > 0 then .ok number.toNat else .error (.wrongOption name "int" value.shown)
  | _ => .error (.wrongOption name "int" value.shown)

/-- Set one option. -/
def setOption (options : Options) (key value : Value) : Except SettingsError Options :=
  match key with
  | .text "program_variable_module" =>
      (textOption "program_variable_module" value).map fun value =>
        { options with programVariableModule := value }
  | .text "setup_module" =>
      (textOption "setup_module" value).map fun value => { options with setupModule := value }
  | .text "setup_procedures" =>
      (listOption "setup_procedures" value).map fun value =>
        { options with setupProcedures := value }
  | .text "use_only_exempt" =>
      (listOption "use_only_exempt" value).map fun value => { options with useOnlyExempt := value }
  | .text "max_line_length" =>
      (numberOption "max_line_length" value).map fun value =>
        { options with maxLineLength := value }
  | key => .error (.unknownOption key.plain)

/-- The options of a section, which may be left out. -/
def readOptions (section' : Option Value) : Except SettingsError Options :=
  let value := section'.getD .null
  if value.isBlank then .ok .default
  else
    match value with
    | .mapping entries =>
        entries.foldlM (fun options (key, value) => setOption options key value) .default
    | _ => .error .optionsNotMapping

/-! ## Rules -/

/-- The entry of a rule in a mapping of rules.  A truth value says whether the
rule is enabled. -/
def entryOf (key value : Value) : Except SettingsError Value :=
  match value with
  | .bool enabled => .ok (.ofEntries [(.text "enabled", .bool enabled), (.text "rule", key)])
  | .mapping settings => .ok (.mapping (Value.insert (.text "rule") key settings))
  | _ => .error (.notSetting key.plain)

/-- The severity of an entry, in any mixture of small and capital letters. -/
def severityOf (rule : String) : Option Value → Except SettingsError (Option Severity)
  | none | some .null => .ok none
  | some value =>
      let name := Text.lower value.plain
      if name = Severity.error.name then .ok (some .error)
      else if name = Severity.warning.name then .ok (some .warning)
      else .error (.unknownSeverity rule value.plain)

/-- Whether an entry enables its rule, as it does when it does not say. -/
def enabledOf (rule : String) : Option Value → Except SettingsError Bool
  | none => .ok true
  | some (.bool enabled) => .ok enabled
  | some _ => .error (.enabledNotBool rule)

/-- The rule and the setting of one entry. -/
def readEntry (entry : Value) : Except SettingsError (Rule × RuleSetting) :=
  match entry with
  | .mapping settings =>
      match Value.lookup? settings "rule" with
      | none => .error (.notEntry entry.shown)
      | some value =>
          let name := Text.upper value.plain
          match Rule.ofName? name with
          | none => .error (.unknownRule name)
          | some rule => do
              refuseOthers ["rule", "enabled", "severity"] settings (.unknownKeys name)
              let enabled ← enabledOf name (Value.lookup? settings "enabled")
              let severity ← severityOf name (Value.lookup? settings "severity")
              return (rule, ⟨enabled, severity⟩)
  | _ => .error (.notEntry entry.shown)

/-- Record an entry.  A rule may be set again to the same. -/
def applyEntry (settings : Settings) (entry : Value) : Except SettingsError Settings := do
  let (rule, setting) ← readEntry entry
  match settings.rule rule with
  | some other =>
      if other = setting then return settings.set rule setting
      else throw (.conflict rule.name)
  | none => return settings.set rule setting

/-- The entries of the section on rules: a list of them, or a mapping from
rules. -/
def ruleEntries : Option Value → Except SettingsError (List Value)
  | none | some .null => .ok []
  | some (.mapping entries) => entries.mapM fun (key, value) => entryOf key value
  | some (.list items) => .ok items
  | some _ => .error .rulesNotListed

/-- The settings that a value gives.  No value at all gives the default. -/
def ofValue (value : Value) : Except SettingsError Settings :=
  match value with
  | .null => .ok .default
  | .mapping sections => do
      refuseOthers ["rules", "options"] sections .unknownSections
      let options ← readOptions (Value.lookup? sections "options")
      let entries ← ruleEntries (Value.lookup? sections "rules")
      entries.foldlM applyEntry { Settings.default with options }
  | _ => .error .notMapping

/-! ## Rules turned off by name -/

/-- Turn off one rule, named in small or capital letters. -/
def disableName (settings : Settings) (name : String) : Except SettingsError Settings :=
  let name := Text.upper name
  match Rule.ofName? name with
  | some rule => .ok (settings.disableRule rule)
  | none => .error (.unknownDisabled name)

/-- Turn off rules, up to the first name that is not known.  The settings come
back in any case, with the error if there is one. -/
def disableEach (settings : Settings) : List String → Settings × Option SettingsError
  | [] => (settings, none)
  | name :: rest =>
      match settings.disableName name with
      | .ok settings => settings.disableEach rest
      | .error error => (settings, some error)

/-- Turn off rules; every name has to be known. -/
def disable (settings : Settings) (names : List String) : Except SettingsError Settings :=
  match settings.disableEach names with
  | (settings, none) => .ok settings
  | (_, some error) => .error error

end FortranStyle.Settings
