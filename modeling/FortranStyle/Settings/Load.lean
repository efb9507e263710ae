import FortranStyle.FileTree
import FortranStyle.Settings.OfValue
import FortranStyle.Text.Lines
import FortranStyle.Text.Utf8
import FortranStyle.Yaml.Document

/-!
# Settings files

A settings file is a YAML text.  Its path is taken as it is written: a path that
ends as a directory leads to no file.  Its bytes are read as a whole before the text
is read, and what makes a value of the text is a parameter.
-/

namespace FortranStyle.Settings

/-- Whether the text of a path can only lead to a directory. -/
def namesDirectory (path : String) : Bool :=
  ["/", "/."].any fun ending => path.endsWith ending

/-- The bytes of a settings file. -/
def fileBytes (tree : FileTree) (path : String) : Except PathError (List UInt8) := do
  let bytes ← tree.bytes (Path.ofString path)
  if namesDirectory path then throw .notDirectory
  return bytes

/-- The value that the text of a settings file stands for. -/
def fileValue (read : Yaml.Reader) (path : String) (text : List Char) :
    Except SettingsError Value :=
  (read text).mapError fun
    | .malformed said => .notYaml path said
    | .noSuchValue reason => .noSuchValue reason

/-- Read settings from a file with a reader of YAML texts.  A byte order mark is left to
the reader. -/
def loadWith (read : Yaml.Reader) (tree : FileTree) (path : String) :
    Except SettingsError Settings := do
  if path.toList.contains '\x00' then throw .nullInPath
  let bytes ← (fileBytes tree path).mapError fun error => .unreadable path (error.message path)
  let text ← (Text.decodePlain bytes).mapError fun error => .undecodable error.message
  ofValue (← fileValue read path (Text.unifyLineEnds text))

/-- Read settings from a file. -/
def load : FileTree → String → Except SettingsError Settings :=
  loadWith Yaml.valueOf

end FortranStyle.Settings
