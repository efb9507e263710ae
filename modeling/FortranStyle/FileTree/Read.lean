import FortranStyle.FileTree
import FortranStyle.Text.Lines
import FortranStyle.Text.Utf8

/-!
# Reading source files

A file is read as UTF-8 and cut into its lines.
-/

namespace FortranStyle

/-- Why a file cannot be read. -/
inductive ReadError
  | path (error : PathError) (place : Path)
  | encoding (error : Text.Utf8Error)
  /-- The path holds a null character, so no file can have it. -/
  | nullInPath
deriving DecidableEq, Repr

/-- The text shown for the reason alone. -/
def ReadError.reason : ReadError → String
  | path error place => error.message place.toString
  | encoding error => error.message
  | nullInPath => "embedded null byte"

/-- The text shown when the file at a path cannot be read. -/
def ReadError.message (error : ReadError) (path : String) : String :=
  s!"Unable to read {path}: {error.reason}"

namespace FileTree

/-- The lines of a file. -/
def readLines (tree : FileTree) (path : String) : Except ReadError (List String) := do
  let place := Path.ofString path
  if path.toList.contains '\x00' then throw .nullInPath
  let bytes ← (tree.bytes place).mapError (.path · place)
  let text ← (Text.decode bytes).mapError .encoding
  return (Text.splitLines (Text.unifyLineEnds text)).map String.ofList

end FileTree

end FortranStyle
