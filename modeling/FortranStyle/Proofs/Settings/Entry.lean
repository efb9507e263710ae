import FortranStyle.Proofs.Sorting.Setting
import FortranStyle.Settings.OfValue

/-!
# Entries of the section on rules

An entry is a mapping that names a rule, and may say whether the rule runs and how much its
findings weigh.  The name of the rule and that of the severity may be written in small or
capital letters.  An entry is read exactly when it is well formed, and then for what it says.
-/

namespace FortranStyle

namespace Value

/-- A mapping with this value of a key before all others. -/
def put (name : String) (value : Value) (fields : List (Value × Value)) : List (Value × Value) :=
  (text name, value) :: fields.filter fun field => !field.1.sameKey (text name)

section

variable {name other : String} (value : Value) (fields : List (Value × Value))

end

end Value

namespace Settings

open Value (lookup?)

/-! ## What entries say -/

/-- The keys that an entry may have. -/
def entryKeys : List String :=
  ["rule", "enabled", "severity"]

/-- What the value of the key for it says whether a rule runs, which it does when there is
no value. -/
inductive SaysEnabled : Option Value → Bool → Prop
  | nothing : SaysEnabled none true
  | told (enabled : Bool) : SaysEnabled (some (.bool enabled)) enabled

/-- What the value of the key for it says of the severity of a rule: nothing, or the name of
one. -/
inductive SaysSeverity : Option Value → Option Severity → Prop
  | nothing : SaysSeverity none none
  | null : SaysSeverity (some .null) none
  | told {value : Value} {severity : Severity} (known : severity = .error ∨ severity = .warning)
      (named : Text.lower value.plain = severity.name) : SaysSeverity (some value) (some severity)

/-- An entry is well formed and sets this for a rule. -/
inductive Sets : Value → Rule → RuleSetting → Prop
  | intro {fields : List (Value × Value)} {name : Value} {rule : Rule} {setting : RuleSetting}
      (names : lookup? fields "rule" = some name) (named : Text.upper name.plain = rule.name)
      (known : ∀ field ∈ fields, ∃ key ∈ entryKeys, field.1 = .text key)
      (enabled : SaysEnabled (lookup? fields "enabled") setting.enabled)
      (severity : SaysSeverity (lookup? fields "severity") setting.severity) :
      Sets (.mapping fields) rule setting

/-- The ways in which an entry is malformed. -/
inductive Malformed : Value → Prop
  | noMapping {entry : Value} (other : ∀ fields, entry ≠ .mapping fields) : Malformed entry
  | noRule {fields : List (Value × Value)} (missing : lookup? fields "rule" = none) :
      Malformed (.mapping fields)
  | unknownRule {fields : List (Value × Value)} {name : Value}
      (names : lookup? fields "rule" = some name)
      (unknown : ∀ rule : Rule, Text.upper name.plain ≠ rule.name) : Malformed (.mapping fields)
  | unknownKey {fields : List (Value × Value)} {field : Value × Value} (listed : field ∈ fields)
      (unknown : ∀ key ∈ entryKeys, field.1 ≠ .text key) : Malformed (.mapping fields)
  | noTruthValue {fields : List (Value × Value)} {value : Value}
      (told : lookup? fields "enabled" = some value) (other : ∀ enabled, value ≠ .bool enabled) :
      Malformed (.mapping fields)
  | noSeverity {fields : List (Value × Value)} {value : Value}
      (told : lookup? fields "severity" = some value) (filled : value ≠ .null)
      (unknown : ∀ severity : Severity, severity = .error ∨ severity = .warning →
        Text.lower value.plain ≠ severity.name) : Malformed (.mapping fields)

/-! ## How entries are read -/

theorem SaysEnabled.unique {value? : Option Value} {enabled enabled' : Bool}
    (first : SaysEnabled value? enabled) (second : SaysEnabled value? enabled') :
    enabled = enabled' := by
  cases first <;> cases second <;> rfl

theorem SaysSeverity.unique {value? : Option Value} {severity severity' : Option Severity}
    (first : SaysSeverity value? severity) (second : SaysSeverity value? severity') :
    severity = severity' := by
  have noName {severity : Severity} (known : severity = .error ∨ severity = .warning)
      (named : Text.lower Value.null.plain = severity.name) : False := by
    rcases known with rfl | rfl <;> exact absurd named (by decide)
  cases first with
  | nothing =>
    cases second
    rfl
  | null =>
    cases second with
    | null => rfl
    | told known named => exact (noName known named).elim
  | told known named =>
    cases second with
    | null => exact (noName known named).elim
    | told _ named' =>
      exact congrArg (fun name => some (Severity.mk name)) (named.symm.trans named')

/-- An entry sets one thing for one rule. -/
theorem Sets.unique {entry : Value} {rule rule' : Rule} {setting setting' : RuleSetting}
    (sets : Sets entry rule setting) (sets' : Sets entry rule' setting') :
    rule = rule' ∧ setting = setting' := by
  obtain ⟨names, named, -, enabled, severity⟩ := sets
  obtain ⟨names', named', -, enabled', severity'⟩ := sets'
  rw [names, Option.some.injEq] at names'
  subst names'
  refine ⟨Rule.name_injective (named.symm.trans named'), ?_⟩
  obtain ⟨isEnabled, level⟩ := setting
  obtain ⟨isEnabled', level'⟩ := setting'
  exact congrArg₂ RuleSetting.mk (enabled.unique enabled') (severity.unique severity')

end Settings

end FortranStyle
