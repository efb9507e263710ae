import FortranStyle.Checker
import FortranStyle.CommandLine.Arguments
import FortranStyle.FileTree.Discover
import FortranStyle.Settings.Load

/-!
# A run of the program

A run reads its arguments and its settings, lists the rules or checks the files, and
ends with what is printed and with a status.  Settings that cannot be used are
reported like a finding, and then no file is checked.  What goes to the log is left out.
-/

namespace FortranStyle.CommandLine

/-- What a run prints, and the status it ends with. -/
structure Output where
  status : Nat
  text : String
deriving DecidableEq, Repr

/-- Why a run breaks off without a report. -/
inductive RunError
  | settings (error : SettingsError)
  | path (fault : FileTree.PathFault)
  | workers (error : WorkersError)
deriving DecidableEq, Repr

/-- The text shown when a run breaks off. -/
def RunError.message : RunError → String
  | settings error => error.message
  | path fault => fault.message
  | workers error => error.message

/-- The name and version of the program. -/
def versionText : String :=
  "fortran-conformance 1.0.0"

/-- The lines that explain the command line. -/
def helpLines : List String :=
  ["usage: fortran-conformance [switches] [paths ...]",
    "",
    "Fortran style conformance checker",
    "",
    "  -h, --help             show this help and exit",
    "  -c, --config FILE      YAML rule configuration file",
    "  --disable RULE         disable a rule by id; may be repeated",
    "  --max-workers NUMBER   maximum number of parallel workers",
    "  --format text|json     output format for the diagnostics",
    "  --list-rules           list the rules with their severities and exit",
    "  --version              show the version and exit",
    "  -v, --verbose          increase output verbosity",
    "  -q, --quiet            decrease output verbosity"]

/-- What is printed when the arguments ask for no run. -/
def Stop.output : Stop → Output
  | error _ => ⟨ExitStatus.fatal.code, ""⟩
  | help => ⟨ExitStatus.success.code, Report.unlines helpLines⟩
  | version => ⟨ExitStatus.success.code, Report.unlines [versionText]⟩

namespace Arguments

/-- The path of the settings file; an empty path is none. -/
def settingsPath? (arguments : Arguments) : Option String :=
  arguments.settingsFile.join.filter (· ≠ "")

/-- Turn off a rule; its name must be there. -/
def disableGiven (settings : Settings) : Option String → Except SettingsError Settings
  | some name => settings.disableName name
  | none => .error .missingDisabled

/-- The settings of a run. -/
def settings (arguments : Arguments) (read : Yaml.Reader) (tree : FileTree) :
    Except SettingsError Settings := do
  let settings ← match arguments.settingsPath? with
    | some path => Settings.loadWith read tree path
    | none => pure .default
  arguments.disabled.foldlM disableGiven settings

/-- What is printed about settings that cannot be used. -/
def settingsReport (arguments : Arguments) (error : SettingsError) : Output :=
  let place := arguments.settingsPath?.getD "<command line>"
  let finding := Rule.settingsError.diagnostic place 0 0 error.message
  let text := match arguments.format with
    | some .json => Report.json [finding]
    | _ => finding.format
  ⟨ExitStatus.fatal.code, Report.unlines [text]⟩

/-- Check the files that the paths stand for. -/
def checkPaths (arguments : Arguments) (tree : FileTree) (settings : Settings) :
    Except RunError Output := do
  let found ← (tree.discover (arguments.paths.map Path.ofString)).mapError .path
  let files := (found.files ++ found.missing).map Path.toString
  let workers ← (arguments.workers.map Except.ok).getD (.error (.workers .missing))
  let checker ← ((Checker.start settings workers).checkFiles tree files).mapError .workers
  let format := arguments.format.getD .text
  return ⟨checker.exitStatus.code, checker.report format arguments.volume⟩

/-- Do as the arguments ask, with a reader of settings files. -/
def run (arguments : Arguments) (read : Yaml.Reader) (tree : FileTree) : Except RunError Output :=
  match arguments.settings read tree with
  | .error error =>
      if error.isExplained then .ok (arguments.settingsReport error)
      else .error (.settings error)
  | .ok settings =>
      if arguments.listsRules then
        .ok ⟨ExitStatus.success.code, Report.unlines [(Report.rulesTable settings).render]⟩
      else
        arguments.checkPaths tree settings

end Arguments

/-- Run the program on the words of a command line. -/
def run (tree : FileTree) (texts : List String) : Except RunError Output :=
  match Arguments.ofTexts texts with
  | .error stop => .ok stop.output
  | .ok arguments => arguments.run Yaml.valueOf tree

end FortranStyle.CommandLine
