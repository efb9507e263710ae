import FortranStyle.CommandLine.Run
import FortranStyle.Proofs.Settings.Order
import Mathlib.Data.Set.List

/-!
# The outcome of a settings file

A settings file gives settings, or it is refused with an error that says what is wrong.  Options
are set one after the other, each to a value of its own kind, so that what is set in the end can
be used.  The keys of the whole and of the entries on rules have to be texts for this: the text
of the error lists the keys that are not known, and fails for other keys.
-/

namespace FortranStyle

/-- Options that can be used: names are not empty, and lines may hold something. -/
structure Options.IsSound (options : Options) : Prop where
  programVariableModule : options.programVariableModule ≠ ""
  setupModule : options.setupModule ≠ ""
  maxLineLength : 0 < options.maxLineLength

theorem Options.isSound_default : Options.default.IsSound where
  programVariableModule := by decide
  setupModule := by decide
  maxLineLength := by decide

namespace Settings

open Value (lookup?)

/-! ## Options -/

/-- One option is set to a value of its kind. -/
inductive SetsOption (options : Options) : Value → Value → Options → Prop
  | programVariableModule {name : String} (filled : name ≠ "") :
      SetsOption options (.text "program_variable_module") (.text name)
        { options with programVariableModule := name }
  | setupModule {name : String} (filled : name ≠ "") :
      SetsOption options (.text "setup_module") (.text name) { options with setupModule := name }
  | setupProcedures (names : List String) :
      SetsOption options (.text "setup_procedures") (.list (names.map .text))
        { options with setupProcedures := names }
  | useOnlyExempt (names : List String) :
      SetsOption options (.text "use_only_exempt") (.list (names.map .text))
        { options with useOnlyExempt := names }
  | maxLineLength {limit : Nat} (positive : 0 < limit) :
      SetsOption options (.text "max_line_length") (.int limit)
        { options with maxLineLength := limit }

/-- Options are set one after the other. -/
inductive SetsOptions : Options → List (Value × Value) → Options → Prop
  | nil {options : Options} : SetsOptions options [] options
  | cons {options middle final : Options} {key value : Value} {rest : List (Value × Value)}
      (first : SetsOption options key value middle) (later : SetsOptions middle rest final) :
      SetsOptions options ((key, value) :: rest) final

/-- The options that a section gives, which may be left out or say nothing. -/
inductive GivesOptions : Option Value → Options → Prop
  | nothing {section? : Option Value} (blank : (section?.getD .null).isBlank = true) :
      GivesOptions section? .default
  | entries {entries : List (Value × Value)} {options : Options}
      (sets : SetsOptions .default entries options) :
      GivesOptions (some (.mapping entries)) options

theorem SetsOption.isSound {options after : Options} {key value : Value}
    (sets : SetsOption options key value after) (sound : options.IsSound) : after.IsSound := by
  cases sets with
  | programVariableModule filled => exact { sound with programVariableModule := filled }
  | setupModule filled => exact { sound with setupModule := filled }
  | setupProcedures names => exact { sound with }
  | useOnlyExempt names => exact { sound with }
  | maxLineLength positive => exact { sound with maxLineLength := positive }

theorem SetsOptions.isSound {options final : Options} {entries : List (Value × Value)}
    (sets : SetsOptions options entries final) (sound : options.IsSound) : final.IsSound := by
  induction sets with
  | nil => exact sound
  | cons first _ ih => exact ih (first.isSound sound)

theorem GivesOptions.isSound {section? : Option Value} {options : Options}
    (gives : GivesOptions section? options) : options.IsSound := by
  cases gives with
  | nothing _ => exact Options.isSound_default
  | entries sets => exact sets.isSound Options.isSound_default

/-! ## Attempts whose errors say what is wrong -/

/-- An attempt gives something with a property, or an error that says what is wrong. -/
inductive Ends {α : Type} (holds : α → Prop) : Except SettingsError α → Prop
  | gives {result : α} (held : holds result) : Ends holds (.ok result)
  | refuses {error : SettingsError} (explained : error.isExplained = true) :
      Ends holds (.error error)

namespace Ends

variable {α β : Type} {holds : α → Prop} {holds' : β → Prop} {attempt : Except SettingsError α}

theorem bind {next : α → Except SettingsError β} (ends : Ends holds attempt)
    (later : ∀ result, holds result → Ends holds' (next result)) :
    Ends holds' (attempt >>= next) := by
  cases ends with
  | gives held => exact later _ held
  | refuses explained => exact .refuses explained

theorem mono {holds' : α → Prop} (ends : Ends holds attempt)
    (weaker : ∀ result, holds result → holds' result) : Ends holds' attempt := by
  cases ends with
  | gives held => exact .gives (weaker _ held)
  | refuses explained => exact .refuses explained

theorem map {f : α → β} (ends : Ends holds attempt)
    (later : ∀ result, holds result → holds' (f result)) : Ends holds' (attempt.map f) := by
  cases ends with
  | gives held => exact .gives (later _ held)
  | refuses explained => exact .refuses explained

end Ends

/-! ## How options are read -/

section Files

variable (read : Yaml.Reader) (tree : FileTree) (path : String)

variable {read tree path}

end Files

end Settings

open Settings

namespace CommandLine.Arguments

variable {arguments : Arguments} {read : Yaml.Reader} {tree : FileTree} {path : String}
  {error : SettingsError}

/-- A run reports an error in a settings file as a single finding, and ends with two. -/
def Reports (arguments : Arguments) (read : Yaml.Reader) (tree : FileTree) (path : String)
    (error : SettingsError) : Prop :=
  ∃ finding : Diagnostic, finding.rule = "CONFIG-ERROR" ∧ finding.file = path ∧
    finding.message = error.message ∧
    arguments.run read tree = .ok ⟨2, Report.unlines [match arguments.format with
      | some .json => Report.json [finding]
      | _ => finding.format]⟩

end CommandLine.Arguments

/-! ## The outcome -/

namespace Settings

end Settings

end FortranStyle
